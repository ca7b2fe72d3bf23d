import Mathlib.Data.List.Basic
import Mathlib.Data.List.Forall2
import Mathlib.Tactic.Common

/-!
# POSIX shell words

How a shell splits a command line into words and removes its quotes: blanks
separate words, single quotes keep everything up to the next one, double quotes
keep all but expansions and their own escapes, and a backslash keeps the next
character. Text the shell acts on instead of passing it along has no word list:
operators, expansions, comments and unterminated quotes all give `none`. What a
command does with its first words (assignments, reserved words, aliases) comes
after this and is not described here.

`Reads text word` says that some text, met where a word can begin, leaves the
shell with exactly that word so far. It composes: words read one by one are read
from their blank-separated join.
-/

namespace ShellWord

abbrev Text := List Char

inductive Mode
  | plain
  | single
  | double
  | escape
  | doubleEscape

def IsBlank (c : Char) : Prop := c = ' ' ∨ c = '\t'

/-- Characters that end a word and are operators themselves. -/
def operators : Text := ['\n', ';', '&', '|', '<', '>', '(', ')']

/-- Characters that start an expansion, of a parameter, of a command or of a
pathname. -/
def expansions : Text := ['$', '\u0060', '*', '?', '[']

/-- Characters that mean something only at the start of a word: a comment, and
the home directory of a user. -/
def initials : Text := ['#', '~']

instance : DecidablePred IsBlank := fun _ => inferInstanceAs (Decidable (_ ∨ _))

/-- The word so far with one more character. -/
def push (word : Option Text) (c : Char) : Option Text := some (word.getD [] ++ [c])

/-- The words of a text, given where in a quotation it starts and the word it
continues, if one has begun. -/
def wordsFrom : Mode → Option Text → Text → Option (List Text)
  | .plain, word, [] => some word.toList
  | _, _, [] => none
  | .plain, word, c :: rest =>
      if IsBlank c then (wordsFrom .plain none rest).map (word.toList ++ ·)
      else if c = '\'' then wordsFrom .single (some (word.getD [])) rest
      else if c = '"' then wordsFrom .double (some (word.getD [])) rest
      else if c = '\\' then wordsFrom .escape word rest
      else if c ∈ operators ∨ c ∈ expansions then none
      else if word = none ∧ c ∈ initials then none
      else wordsFrom .plain (push word c) rest
  | .single, word, c :: rest =>
      if c = '\'' then wordsFrom .plain word rest
      else wordsFrom .single (push word c) rest
  | .escape, word, c :: rest =>
      -- A backslash before a newline continues the line.
      if c = '\n' then wordsFrom .plain word rest
      else wordsFrom .plain (push word c) rest
  | .double, word, c :: rest =>
      if c = '"' then wordsFrom .plain word rest
      else if c = '\\' then wordsFrom .doubleEscape word rest
      else if c = '$' ∨ c = '\u0060' then none
      else wordsFrom .double (push word c) rest
  | .doubleEscape, word, c :: rest =>
      if c = '\n' then wordsFrom .double word rest
      else if c ∈ ['$', '\u0060', '"', '\\'] then wordsFrom .double (push word c) rest
      else wordsFrom .double (push (push word '\\') c) rest

def words (text : Text) : Option (List Text) := wordsFrom .plain none text

/-- A character that stands for itself inside a word that has begun. -/
def Ordinary (c : Char) : Prop :=
  ¬ IsBlank c ∧ c ≠ '\'' ∧ c ≠ '"' ∧ c ≠ '\\' ∧ c ∉ operators ∧ c ∉ expansions

/-- The text, met at the start of a word, leaves the word so far. -/
def Reads (text word : Text) : Prop :=
  ∀ rest, wordsFrom .plain none (text ++ rest) = wordsFrom .plain (some word) rest

@[simp] theorem push_some (word : Text) (c : Char) :
    push (some word) c = some (word ++ [c]) := rfl

theorem wordsFrom_plain_nil (word : Option Text) :
    wordsFrom .plain word [] = some word.toList := rfl

theorem wordsFrom_plain_cons (word : Option Text) (c : Char) (rest : Text) :
    wordsFrom .plain word (c :: rest) =
      if IsBlank c then (wordsFrom .plain none rest).map (word.toList ++ ·)
      else if c = '\'' then wordsFrom .single (some (word.getD [])) rest
      else if c = '"' then wordsFrom .double (some (word.getD [])) rest
      else if c = '\\' then wordsFrom .escape word rest
      else if c ∈ operators ∨ c ∈ expansions then none
      else if word = none ∧ c ∈ initials then none
      else wordsFrom .plain (push word c) rest := rfl

theorem wordsFrom_single_cons (word : Option Text) (c : Char) (rest : Text) :
    wordsFrom .single word (c :: rest) =
      if c = '\'' then wordsFrom .plain word rest
      else wordsFrom .single (push word c) rest := rfl

theorem wordsFrom_escape_cons (word : Option Text) (c : Char) (rest : Text) :
    wordsFrom .escape word (c :: rest) =
      if c = '\n' then wordsFrom .plain word rest
      else wordsFrom .plain (push word c) rest := rfl

theorem wordsFrom_single {text : Text} (h : '\'' ∉ text) (word rest : Text) :
    wordsFrom .single (some word) (text ++ '\'' :: rest) =
      wordsFrom .plain (some (word ++ text)) rest := by
  induction text generalizing word with
  | nil => simp [wordsFrom_single_cons]
  | cons c text ih =>
      have hc : c ≠ '\'' := fun heq => h (heq ▸ List.mem_cons_self)
      have htext : '\'' ∉ text := fun hmem => h (List.mem_cons_of_mem _ hmem)
      have hassoc : word ++ [c] ++ text = word ++ c :: text := by simp
      rw [List.cons_append, wordsFrom_single_cons, if_neg hc, push_some, ih htext, hassoc]

theorem wordsFrom_ordinary {c : Char} (h : Ordinary c) (word rest : Text) :
    wordsFrom .plain (some word) (c :: rest) =
      wordsFrom .plain (some (word ++ [c])) rest := by
  obtain ⟨hblank, hsingle, hdouble, hescape, hoperator, hexpansion⟩ := h
  simp [wordsFrom_plain_cons, hblank, hsingle, hdouble, hescape, hoperator, hexpansion]

theorem wordsFrom_plain {text : Text} (h : ∀ c ∈ text, Ordinary c)
    (word rest : Text) :
    wordsFrom .plain (some word) (text ++ rest) =
      wordsFrom .plain (some (word ++ text)) rest := by
  induction text generalizing word with
  | nil => simp
  | cons c text ih =>
      have hassoc : word ++ [c] ++ text = word ++ c :: text := by simp
      rw [List.cons_append, wordsFrom_ordinary (h c List.mem_cons_self),
        ih fun d hd => h d (List.mem_cons_of_mem _ hd), hassoc]

theorem reads_quoted {text : Text} (h : '\'' ∉ text) :
    Reads ('\'' :: text ++ ['\'']) text := by
  intro rest
  have hquote : ¬ IsBlank '\'' := by decide
  have hassoc : '\'' :: text ++ ['\''] ++ rest = '\'' :: (text ++ '\'' :: rest) := by
    simp
  rw [hassoc, wordsFrom_plain_cons, if_neg hquote, if_pos rfl]
  exact wordsFrom_single h [] rest

/-- Ordinary text that starts no comment and names no home directory is read as
itself. -/
theorem reads_plain {c : Char} {text : Text} (hc : c ∉ initials)
    (h : ∀ d ∈ c :: text, Ordinary d) : Reads (c :: text) (c :: text) := by
  intro rest
  obtain ⟨hblank, hsingle, hdouble, hescape, hoperator, hexpansion⟩ :=
    h c List.mem_cons_self
  have hfirst : wordsFrom .plain none (c :: (text ++ rest)) =
      wordsFrom .plain (some [c]) (text ++ rest) := by
    simp [wordsFrom_plain_cons, hblank, hsingle, hdouble, hescape, hoperator, hexpansion, hc, push]
  rw [List.cons_append, hfirst,
    wordsFrom_plain fun d hd => h d (List.mem_cons_of_mem _ hd)]
  rfl

theorem words_intercalate {texts ws : List Text}
    (h : List.Forall₂ Reads texts ws) :
    words (List.intercalate [' '] texts) = some ws := by
  induction h with
  | nil => rfl
  | @cons text word texts ws hread hrest ih =>
      cases hrest with
      | nil =>
          have hend := hread []
          rw [List.append_nil] at hend
          rw [List.intercalate_singleton, words, hend]
          rfl
      | @cons text' word' texts ws hread' hrest =>
          have hblank : IsBlank ' ' := Or.inl rfl
          rw [List.intercalate_cons_cons, List.append_assoc, words, hread,
            List.singleton_append, wordsFrom_plain_cons, if_pos hblank]
          change (words (List.intercalate [' '] (text' :: texts))).map _ = _
          rw [ih]
          rfl

/-- From the word so far, the text completes the words `ws` and leaves `word'`. -/
def Passes (word : Option Text) (text : Text) (ws : List Text) (word' : Option Text) :
    Prop :=
  ∀ rest, wordsFrom .plain word (text ++ rest) =
    (wordsFrom .plain word' rest).map (ws ++ ·)

/-- From the word so far, the text has no word list, whatever follows. -/
def Blocks (word : Option Text) (text : Text) : Prop :=
  ∀ rest, wordsFrom .plain word (text ++ rest) = none

/-- The text, met at the start of a word, is blocked or ends inside a word. -/
def Settles (text : Text) : Prop :=
  Blocks none text ∨ ∃ ws word, Passes none text ws (some word)

theorem Passes.append {word word' word'' : Option Text} {text text' : Text}
    {ws ws' : List Text} (h : Passes word text ws word')
    (h' : Passes word' text' ws' word'') :
    Passes word (text ++ text') (ws ++ ws') word'' := by
  intro rest
  rw [List.append_assoc, h, h', Option.map_map]
  congr 1
  funext out
  simp

theorem Passes.blocks {word word' : Option Text} {text text' : Text} {ws : List Text}
    (h : Passes word text ws word') (h' : Blocks word' text') :
    Blocks word (text ++ text') := by
  intro rest
  rw [List.append_assoc, h, h']
  rfl

theorem Blocks.append {word : Option Text} {text : Text} (h : Blocks word text)
    (text' : Text) : Blocks word (text ++ text') := by
  intro rest
  rw [List.append_assoc, h]

theorem passes_nil (word : Option Text) : Passes word [] [] word := by
  intro rest
  simp

theorem reads_iff_passes {text word : Text} :
    Reads text word ↔ Passes none text [] (some word) := by
  simp [Reads, Passes]

/-- Text without quotes and backslashes is blocked or completes the words it
spells; if it completes none, it only made the word longer. -/
theorem blocks_or_passes_of_unquoted {text : Text}
    (h : ∀ c ∈ text, c ≠ '\'' ∧ c ≠ '"' ∧ c ≠ '\\') (word : Option Text) :
    Blocks word text ∨ ∃ ws word', Passes word text ws word' ∧
      (ws = [] → ∀ w ∈ word, word' = some (w ++ text)) := by
  induction text generalizing word with
  | nil => exact Or.inr ⟨[], word, passes_nil word, by simp⟩
  | cons c text ih =>
      obtain ⟨hsingle, hdouble, hescape⟩ := h c List.mem_cons_self
      have htext := ih fun d hd => h d (List.mem_cons_of_mem _ hd)
      by_cases hblank : IsBlank c
      · -- The word so far is complete, so the last part has nothing to show.
        have hstep : Passes word [c] word.toList none := by
          intro rest
          simp [wordsFrom_plain_cons, hblank]
        rcases htext none with hblock | ⟨ws, word', hpass, -⟩
        · exact Or.inl (hstep.blocks hblock)
        · refine Or.inr ⟨word.toList ++ ws, word', hstep.append hpass, ?_⟩
          rintro hws w hw
          simp_all
      · by_cases hbad : c ∈ operators ∨ c ∈ expansions
        · refine Or.inl fun rest => ?_
          simp [wordsFrom_plain_cons, hblank, hsingle, hdouble, hescape, hbad]
        · by_cases hinitial : word = none ∧ c ∈ initials
          · refine Or.inl fun rest => ?_
            simp [wordsFrom_plain_cons, hblank, hsingle, hdouble, hescape, hbad, hinitial]
          · have hstep : Passes word [c] [] (push word c) := by
              intro rest
              simp [wordsFrom_plain_cons, hblank, hsingle, hdouble, hescape, hbad, hinitial]
            rcases htext (push word c) with hblock | ⟨ws, word', hpass, hend⟩
            · exact Or.inl (hstep.blocks hblock)
            · refine Or.inr ⟨ws, word', hstep.append hpass, ?_⟩
              rintro hws w hw
              have hpush : push word c = some (w ++ [c]) := by
                rw [Option.mem_def.mp hw, push_some]
              have hnext := hend hws (w ++ [c]) hpush
              simpa using hnext

theorem passes_escaped_quote (word : Option Text) :
    Passes word ['\\', '\''] [] (push word '\'') := by
  intro rest
  have hblank : ¬ IsBlank '\\' := by decide
  simp [wordsFrom_plain_cons, wordsFrom_escape_cons, hblank]

theorem passes_quoted_backslash (word : Option Text) :
    Passes word ['\'', '\\', '\''] [] (push word '\\') := by
  intro rest
  have hblank : ¬ IsBlank '\'' := by decide
  simp [wordsFrom_plain_cons, wordsFrom_single_cons, hblank, push]

/-- Texts that settle are read one by one, if there are as many words as texts. -/
theorem forall₂_reads_of_words {texts out : List Text} (h : ∀ text ∈ texts, Settles text)
    (hwords : words (List.intercalate [' '] texts) = some out)
    (hlength : out.length ≤ texts.length) : List.Forall₂ Reads texts out := by
  suffices hall : texts.length ≤ out.length ∧
      (out.length = texts.length → List.Forall₂ Reads texts out) from
    hall.2 (Nat.le_antisymm hlength hall.1)
  clear hlength
  induction texts generalizing out with
  | nil =>
      have hout : out = [] := by
        simpa [words, wordsFrom_plain_nil, eq_comm] using hwords
      simp [hout]
  | cons text texts ih =>
      -- A text never ends its own last word, so it accounts for at least one.
      have hfirst : ∃ ws word out', Passes none text ws (some word) ∧
          words (List.intercalate [' '] texts) = some out' ∧ out = ws ++ word :: out' := by
        rcases h text List.mem_cons_self with hblock | ⟨ws, word, hpass⟩
        · exfalso
          cases texts with
          | nil =>
              have hnone := hblock []
              rw [List.append_nil] at hnone
              rw [List.intercalate_singleton, words, hnone] at hwords
              cases hwords
          | cons text' texts =>
              rw [List.intercalate_cons_cons, List.append_assoc, words, hblock] at hwords
              cases hwords
        · cases texts with
          | nil =>
              have hend := hpass []
              rw [List.append_nil] at hend
              rw [List.intercalate_singleton, words, hend] at hwords
              refine ⟨ws, word, [], hpass, rfl, ?_⟩
              simpa [wordsFrom_plain_nil, eq_comm] using hwords
          | cons text' texts =>
              have hblank : IsBlank ' ' := Or.inl rfl
              rw [List.intercalate_cons_cons, List.append_assoc, words, hpass,
                List.singleton_append, wordsFrom_plain_cons, if_pos hblank, Option.map_map,
                Option.map_eq_some_iff] at hwords
              obtain ⟨out', hout', heq⟩ := hwords
              refine ⟨ws, word, out', hpass, hout', ?_⟩
              simpa using heq.symm
      obtain ⟨ws, word, out', hpass, hout', heq⟩ := hfirst
      obtain ⟨hle, hreads⟩ :=
        ih (fun t ht => h t (List.mem_cons_of_mem _ ht)) hout'
      have hlength : out.length = ws.length + (out'.length + 1) := by
        rw [heq, List.length_append, List.length_cons]
      refine ⟨by simp only [List.length_cons]; omega, fun hcount => ?_⟩
      rw [List.length_cons] at hcount
      have hws : ws = [] := List.length_eq_zero_iff.mp (by omega)
      have hrest : out'.length = texts.length := by
        rw [hws, List.length_nil] at hlength
        omega
      subst hws heq
      exact List.Forall₂.cons (reads_iff_passes.mpr hpass) (hreads hrest)

end ShellWord
