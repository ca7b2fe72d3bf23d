import Kallichore.Lib.ShellWord
import Kallichore.Lib.Utf8

/-!
# Quoting a command for the login shell

A kernel that starts in a login shell is given as one command line, its
arguments escaped one by one and joined by blanks. An argument without special
characters is left as it is and any other is put in single quotes, with the
loop over the pieces between its own single quotes kept as the source has it:
it looks back at the last character written to decide whether to open a
quotation, and takes a piece shorter than the argument for one that is not the
last.
-/

namespace Kallichore

open ShellWord Utf8

/-- The characters that make an argument need quotes. -/
def specialChars : Text :=
  ['\\', '"', '\'', '\u0060', '$', '{', '}', '(', ')', '*', '?', '!', ' ', '\t',
    '\n', ';', '&', '|', '<', '>', '[', ']']

def endsWithQuote (s : Text) : Bool := s.getLast? = some '\''

/-- One turn of the loop over the pieces of `s` between its single quotes. -/
def escapePart (s result part : Text) : Text :=
  let result := if endsWithQuote result then result else result ++ ['\'']
  let result := result ++ part
  let result := if part = [] then result else result ++ ['\'']
  if utf8Len part < utf8Len s then result ++ ['\\', '\''] else result

/-- Escape a string for use in a shell command. -/
def escapeForShell (s : Text) : Text :=
  if s = [] then ['\'', '\'']
  else if ¬ s.any (· ∈ specialChars) then s
  else
    let result := (s.splitOn '\'').foldl (escapePart s) ['\'']
    if endsWithQuote result then result else result ++ ['\'']

def kernelCommand (argv : List Text) : Text :=
  List.intercalate [' '] (argv.map escapeForShell)

/-- An argument the escape gets right: it has no single quote, and if it could
be taken for a comment or a home directory, something in it puts it in quotes. -/
def Quotable (arg : Text) : Prop :=
  '\'' ∉ arg ∧ ∀ c ∈ arg.head?, c ∈ initials → ∃ d ∈ arg, d ∈ specialChars

-- Over the list and the option: not over all characters.
instance : DecidablePred Quotable := fun arg =>
  letI : Decidable (∃ d ∈ arg, d ∈ specialChars) := List.decidableBEx _ arg
  @instDecidableAnd _ _ inferInstance (Option.decidableForallMem arg.head?)

theorem ordinary_of_not_mem_specialChars {c : Char} (h : c ∉ specialChars) :
    Ordinary c := by
  simp only [specialChars, List.mem_cons, List.not_mem_nil, or_false, not_or] at h
  refine ⟨?_, ?_, ?_, ?_, ?_, ?_⟩ <;>
    simp [IsBlank, operators, expansions, h]

theorem endsWithQuote_append (s : Text) : endsWithQuote (s ++ ['\'']) = true := by
  simp [endsWithQuote]

theorem escapeForShell_quoted {s : Text} (hquote : '\'' ∉ s)
    (hspecial : ∃ d ∈ s, d ∈ specialChars) :
    escapeForShell s = '\'' :: s ++ ['\''] := by
  obtain ⟨d, hd, hspecial⟩ := hspecial
  have hne : s ≠ [] := List.ne_nil_of_mem hd
  have hany : s.any (· ∈ specialChars) = true :=
    List.any_eq_true.mpr ⟨d, hd, by simpa using hspecial⟩
  have hpart : escapePart s ['\''] s = '\'' :: s ++ ['\''] := by
    simp [escapePart, hne, endsWithQuote]
  simp only [escapeForShell, hne, hany, List.splitOn_eq_singleton hquote,
    List.foldl_cons, List.foldl_nil, hpart, endsWithQuote_append, if_false, if_true, not_true]

theorem reads_escapeForShell {arg : Text} (h : Quotable arg) :
    Reads (escapeForShell arg) arg := by
  obtain ⟨hquote, hinitial⟩ := h
  cases arg with
  | nil => exact reads_quoted hquote
  | cons c text =>
      by_cases hspecial : ∃ d ∈ c :: text, d ∈ specialChars
      · rw [escapeForShell_quoted hquote hspecial]
        exact reads_quoted hquote
      · have hplain : ∀ d ∈ c :: text, d ∉ specialChars := by
          simpa using hspecial
        have hany : (c :: text).any (· ∈ specialChars) = false := by
          rw [List.any_eq_false]
          simpa using hplain
        have hsame : escapeForShell (c :: text) = c :: text := by
          simp [escapeForShell, hany]
        rw [hsame]
        refine reads_plain (fun hmem => hspecial (hinitial c rfl hmem)) ?_
        exact fun d hd => ordinary_of_not_mem_specialChars (hplain d hd)

/-- What the loop writes for a piece that is shorter than the argument. -/
def escapedPart (part : Text) : Text :=
  part ++ (if part = [] then [] else ['\'']) ++ ['\\', '\'']

/-- No quote and no backslash follows the first single quote of the argument,
further single quotes apart. -/
def TameAfterQuote (arg : Text) : Prop :=
  ∀ c ∈ arg.dropWhile (· ≠ '\''), c ≠ '"' ∧ c ≠ '\\'

theorem splitOn_mem {x : Char} {s part : Text} (h : part ∈ s.splitOn x) :
    part.Sublist s ∧ x ∉ part := by
  induction s generalizing part with
  | nil =>
      have hpart : part = [] := by simpa using h
      simp [hpart]
  | cons c s ih =>
      rw [List.splitOn_cons_eq_if_modifyHead] at h
      split at h
      · rcases List.mem_cons.mp h with rfl | hmem
        · simp
        · exact ⟨(ih hmem).1.cons c, (ih hmem).2⟩
      · rename_i hc
        obtain ⟨first, parts, hparts⟩ := List.exists_cons_of_ne_nil (List.splitOn_ne_nil x s)
        rw [hparts] at ih h
        rcases List.mem_cons.mp h with rfl | hmem
        · have hfirst := ih List.mem_cons_self
          refine ⟨hfirst.1.cons_cons c, fun hmem => ?_⟩
          rcases List.mem_cons.mp hmem with heq | hin
          · exact hc (beq_iff_eq.mpr heq.symm)
          · exact hfirst.2 hin
        · have hpart := ih (List.mem_cons_of_mem _ hmem)
          exact ⟨hpart.1.cons c, hpart.2⟩

/-- The pieces, each with a separator behind it, are the text and one separator. -/
theorem splitOn_flatMap (x : Char) (s : Text) :
    ((s.splitOn x).flatMap fun part => part ++ [x]) = s ++ [x] := by
  induction s with
  | nil => simp
  | cons c s ih =>
      rw [List.splitOn_cons_eq_if_modifyHead]
      split
      · rename_i hc
        rw [List.flatMap_cons, ih, beq_iff_eq.mp hc]
        rfl
      · obtain ⟨first, parts, hparts⟩ := List.exists_cons_of_ne_nil (List.splitOn_ne_nil x s)
        rw [hparts, List.flatMap_cons] at ih
        rw [hparts, List.modifyHead_cons, List.flatMap_cons, List.cons_append,
          List.cons_append, ih, List.cons_append]

/-- The look-behind of the loop finds the quote it looks for at every piece. -/
theorem foldl_escapePart {s : Text} {parts : List Text}
    (h : ∀ part ∈ parts, utf8Len part < utf8Len s) {result : Text}
    (hresult : endsWithQuote result = true) :
    parts.foldl (escapePart s) result = result ++ parts.flatMap escapedPart := by
  induction parts generalizing result with
  | nil => simp
  | cons part parts ih =>
      have hshort := h part List.mem_cons_self
      have hturn : escapePart s result part = result ++ escapedPart part := by
        by_cases hpart : part = []
        · simp [escapePart, escapedPart, hresult, hpart, hpart ▸ hshort]
        · simp [escapePart, escapedPart, hresult, hpart, hshort]
      have hends : endsWithQuote (result ++ escapedPart part) = true := by
        simp [endsWithQuote, escapedPart]
      rw [List.foldl_cons, hturn,
        ih (fun q hq => h q (List.mem_cons_of_mem _ hq)) hends]
      simp

theorem escapeForShell_of_quote {part rest : Text} (hpart : '\'' ∉ part) :
    escapeForShell (part ++ '\'' :: rest) =
      '\'' :: (escapedPart part ++ (rest.splitOn '\'').flatMap escapedPart) := by
  have hne : part ++ '\'' :: rest ≠ [] := by simp
  have hany : (part ++ '\'' :: rest).any (· ∈ specialChars) = true := by
    simp [specialChars]
  have hlen : utf8Len (part ++ '\'' :: rest) = utf8Len part + (1 + utf8Len rest) := by
    rw [utf8Len_append, utf8Len_cons]
    rfl
  have hshort : ∀ q ∈ part :: rest.splitOn '\'', utf8Len q < utf8Len (part ++ '\'' :: rest) := by
    intro q hq
    rcases List.mem_cons.mp hq with rfl | hmem
    · omega
    · have hle := utf8Len_le_of_sublist (splitOn_mem hmem).1
      omega
  have hends : endsWithQuote
      ('\'' :: (escapedPart part ++ (rest.splitOn '\'').flatMap escapedPart)) = true := by
    obtain ⟨init, last, hparts⟩ :=
      (List.eq_nil_or_concat _).resolve_left (List.splitOn_ne_nil '\'' rest)
    have hlast : '\'' :: (escapedPart part ++ (init ++ [last]).flatMap escapedPart) =
        '\'' :: (escapedPart part ++ (init.flatMap escapedPart ++
          (last ++ ((if last = [] then [] else ['\'']) ++ ['\\'])))) ++ ['\''] := by
      simp [escapedPart]
    rw [hparts, List.concat_eq_append, hlast, endsWithQuote_append]
  have hfold := foldl_escapePart hshort (rfl : endsWithQuote ['\''] = true)
  rw [List.flatMap_cons, List.singleton_append] at hfold
  simp only [escapeForShell, hne, hany, List.splitOn_append_cons_self_of_not_mem hpart,
    hfold, hends, if_false, if_true, not_true]

/-- A piece after the first one is met outside quotations: it is blocked, or it
splits the word at a blank, or it and one character more are added to the word. -/
theorem blocks_or_passes_escapedPart {part : Text}
    (h : ∀ c ∈ part, c ≠ '\'' ∧ c ≠ '"' ∧ c ≠ '\\') (word : Text) :
    Blocks (some word) (escapedPart part) ∨
      ∃ ws word', Passes (some word) (escapedPart part) ws (some word') ∧
        (ws = [] → word'.length = word.length + (part.length + 1)) := by
  by_cases hpart : part = []
  · refine Or.inr ⟨[], word ++ ['\''], ?_, fun _ => by simp [hpart]⟩
    simpa [escapedPart, hpart] using passes_escaped_quote (some word)
  · have hescaped : escapedPart part = part ++ ['\'', '\\', '\''] := by
      simp [escapedPart, hpart]
    rw [hescaped]
    rcases blocks_or_passes_of_unquoted h (some word) with hblock | ⟨ws, word', hpass, hend⟩
    · exact Or.inl (hblock.append _)
    · have hall := hpass.append (passes_quoted_backslash word')
      rw [List.append_nil] at hall
      refine Or.inr ⟨ws, word'.getD [] ++ ['\\'], hall, fun hws => ?_⟩
      rw [hend hws word rfl]
      simp only [Option.getD_some, List.length_append, List.length_singleton]
      omega

theorem blocks_or_passes_escapedParts {parts : List Text}
    (h : ∀ part ∈ parts, ∀ c ∈ part, c ≠ '\'' ∧ c ≠ '"' ∧ c ≠ '\\') (word : Text) :
    Blocks (some word) (parts.flatMap escapedPart) ∨
      ∃ ws word', Passes (some word) (parts.flatMap escapedPart) ws (some word') ∧
        (ws = [] →
          word'.length =
            word.length + (parts.flatMap fun part => part ++ ['\'']).length) := by
  induction parts generalizing word with
  | nil => exact Or.inr ⟨[], word, passes_nil _, by simp⟩
  | cons part parts ih =>
      rw [List.flatMap_cons]
      rcases blocks_or_passes_escapedPart (h part List.mem_cons_self) word with
        hblock | ⟨ws, word', hpass, hlength⟩
      · exact Or.inl (hblock.append _)
      · rcases ih (fun q hq => h q (List.mem_cons_of_mem _ hq)) word' with
          hblock | ⟨ws', word'', hpass', hlength'⟩
        · exact Or.inl (hpass.blocks hblock)
        · refine Or.inr ⟨ws ++ ws', word'', hpass.append hpass', fun hws => ?_⟩
          obtain ⟨hnil, hnil'⟩ := List.append_eq_nil_iff.mp hws
          rw [hlength' hnil', hlength hnil, List.flatMap_cons, List.length_append,
            List.length_append, List.length_singleton]
          omega

theorem passes_first_escapedPart {part : Text} (h : '\'' ∉ part) :
    ∃ word, Passes none ('\'' :: escapedPart part) [] (some word) ∧
      word.length = part.length + 1 := by
  by_cases hpart : part = []
  · refine ⟨['\\'], ?_, by simp [hpart]⟩
    simpa [escapedPart, hpart, push] using passes_quoted_backslash none
  · refine ⟨part ++ ['\''], ?_, by simp⟩
    have hescaped : '\'' :: escapedPart part = '\'' :: part ++ ['\''] ++ ['\\', '\''] := by
      simp [escapedPart, hpart]
    rw [hescaped]
    exact (reads_iff_passes.mp (reads_quoted h)).append (passes_escaped_quote (some part))

/-- The image of an argument with a single quote is one character too long to be
the argument. -/
theorem blocks_or_passes_escapeForShell {arg : Text} (hquote : '\'' ∈ arg)
    (htame : TameAfterQuote arg) :
    Blocks none (escapeForShell arg) ∨
      ∃ ws word, Passes none (escapeForShell arg) ws (some word) ∧
        (ws = [] → word.length = arg.length + 1) := by
  obtain ⟨part, rest, rfl, hpart⟩ := List.eq_append_cons_of_mem hquote
  have hdrop : (part ++ '\'' :: rest).dropWhile (· ≠ '\'') = '\'' :: rest := by
    rw [List.dropWhile_append_of_pos]
    · simp
    · intro c hc
      simpa using fun heq : c = '\'' => hpart (heq ▸ hc)
  have htail : ∀ q ∈ rest.splitOn '\'', ∀ c ∈ q, c ≠ '\'' ∧ c ≠ '"' ∧ c ≠ '\\' := by
    intro q hq c hc
    have hmem : c ∈ (part ++ '\'' :: rest).dropWhile (· ≠ '\'') := by
      rw [hdrop]
      exact List.mem_cons_of_mem _ ((splitOn_mem hq).1.subset hc)
    exact ⟨fun heq => (splitOn_mem hq).2 (heq ▸ hc), htame c hmem⟩
  obtain ⟨word, hfirst, hlength⟩ := passes_first_escapedPart hpart
  rw [escapeForShell_of_quote hpart, ← List.cons_append]
  rcases blocks_or_passes_escapedParts htail word with hblock | ⟨ws, word', hpass, hlength'⟩
  · exact Or.inl (hfirst.blocks hblock)
  · refine Or.inr ⟨ws, word', hfirst.append hpass, fun hws => ?_⟩
    rw [hlength' hws, splitOn_flatMap, hlength]
    simp only [List.length_append, List.length_cons, List.length_nil]
    omega

/-- An argument that could be taken for a comment or a home directory, and is
not put in quotes, is. -/
theorem blocks_escapeForShell {arg : Text} (hquote : '\'' ∉ arg) (h : ¬ Quotable arg) :
    Blocks none (escapeForShell arg) := by
  simp only [Quotable, hquote, not_false_eq_true, true_and, not_forall] at h
  obtain ⟨c, hc, hinitial, hplain⟩ := h
  cases arg with
  | nil => cases hc
  | cons d text =>
      obtain rfl : d = c := by simpa using hc
      have hany : (d :: text).any (· ∈ specialChars) = false := by
        rw [List.any_eq_false]
        simpa using hplain
      have hsame : escapeForShell (d :: text) = d :: text := by
        simp [escapeForShell, hany]
      have hd : Ordinary d :=
        ordinary_of_not_mem_specialChars fun hmem => hplain ⟨d, List.mem_cons_self, hmem⟩
      obtain ⟨hblank, hsingle, hdouble, hescape, hoperator, hexpansion⟩ := hd
      intro rest
      rw [hsame]
      simp [wordsFrom_plain_cons, hblank, hsingle, hdouble, hescape, hoperator, hexpansion,
        hinitial]

theorem settles_escapeForShell {arg : Text} (h : TameAfterQuote arg) :
    Settles (escapeForShell arg) := by
  by_cases hquote : '\'' ∈ arg
  · rcases blocks_or_passes_escapeForShell hquote h with hblock | ⟨ws, word, hpass, -⟩
    · exact Or.inl hblock
    · exact Or.inr ⟨ws, word, hpass⟩
  · by_cases harg : Quotable arg
    · exact Or.inr ⟨[], arg, reads_iff_passes.mp (reads_escapeForShell harg)⟩
    · exact Or.inl (blocks_escapeForShell hquote harg)

theorem quotable_of_reads {arg : Text} (h : TameAfterQuote arg)
    (hreads : Reads (escapeForShell arg) arg) : Quotable arg := by
  have hend : wordsFrom .plain none (escapeForShell arg ++ []) = some [arg] := by
    rw [hreads]
    rfl
  by_cases hquote : '\'' ∈ arg
  · exfalso
    rcases blocks_or_passes_escapeForShell hquote h with hblock | ⟨ws, word, hpass, hlength⟩
    · rw [hblock] at hend
      cases hend
    · rw [hpass] at hend
      have heq : ws ++ [word] = [arg] := by simpa [wordsFrom_plain_nil] using hend
      obtain ⟨hws, hword⟩ : ws = [] ∧ word = arg := by
        cases ws with
        | nil => simpa using heq
        | cons w ws => simp at heq
      have hlong := hlength hws
      rw [hword] at hlong
      omega
  · by_contra harg
    rw [blocks_escapeForShell hquote harg] at hend
    cases hend

/-- The shell reads the command back as the arguments it was made of, if each of
them is quotable. Where no quote or backslash follows a single quote, that is
also the only way. -/
theorem words_kernelCommand (argv : List Text) :
    ((∀ arg ∈ argv, Quotable arg) → words (kernelCommand argv) = some argv) ∧
    ((∀ arg ∈ argv, TameAfterQuote arg) →
      (words (kernelCommand argv) = some argv ↔ ∀ arg ∈ argv, Quotable arg)) := by
  have henough : (∀ arg ∈ argv, Quotable arg) → words (kernelCommand argv) = some argv := by
    intro h
    refine words_intercalate (List.forall₂_map_left_iff.mpr ?_)
    exact List.forall₂_same.mpr fun arg harg => reads_escapeForShell (h arg harg)
  refine ⟨henough, fun htame => ⟨fun hwords => ?_, henough⟩⟩
  have hsettles : ∀ text ∈ argv.map escapeForShell, Settles text := by
    intro text htext
    obtain ⟨arg, harg, rfl⟩ := List.mem_map.mp htext
    exact settles_escapeForShell (htame arg harg)
  have hreads := forall₂_reads_of_words hsettles hwords (by simp)
  rw [List.forall₂_map_left_iff, List.forall₂_same] at hreads
  exact fun arg harg => quotable_of_reads (htame arg harg) (hreads arg harg)

/-- A file name with a blank is put in quotes and read back. -/
theorem words_kernelCommand_blank :
    words (kernelCommand ["ark".toList, "my file".toList]) =
      some ["ark".toList, "my file".toList] := by
  apply (words_kernelCommand _).1
  rw [List.forall_mem_cons, List.forall_mem_singleton]
  exact ⟨by decide, by decide⟩

/-- An apostrophe leaves a backslash behind. -/
theorem words_kernelCommand_apostrophe :
    ¬ ∀ argv : List Text, argv ≠ [] → (∀ arg ∈ argv, '\x00' ∉ arg) →
      words (kernelCommand argv) = some argv := by
  intro h
  have hwords : words (kernelCommand ["it's".toList]) = some ["it's\\".toList] := by decide
  have hhere := h ["it's".toList] (by decide) (by decide)
  rw [hwords] at hhere
  revert hhere
  decide

-- Backslashes after a single quote can make up for the one that is left behind.
example : words (kernelCommand ["a'\\\\".toList]) = some ["a'\\\\".toList] := by decide

end Kallichore
