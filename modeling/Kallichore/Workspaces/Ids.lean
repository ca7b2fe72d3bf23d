import Kallichore.Workspaces.Token
import Mathlib.Computability.Language

/-!
# Workspace IDs

The ID of a workspace goes into the path that its endpoint is reached under. It is either
supplied, and then checked by `is_valid_id`, or minted from the display name, which may be
any text: `slugify` reduces it to words of lower-case ASCII letters and digits with single
hyphens between them. It goes through the name once, so what it holds at any moment may end
with a hyphen that is not followed by a word yet; such a hyphen is trimmed in the end.

A minted ID is a slug again, the suffix being its last word, and every slug that is short
enough is a valid ID. A minted ID is none that is taken, and a registration that names a
record only writes its display name and its token.
-/

namespace Kallichore

namespace Workspaces

def isIdChar (ch : Char) : Bool := ch.isLower || ch.isDigit

/-- `[a-z0-9]`. -/
def idChar : Language Char := {text | ∃ ch, isIdChar ch = true ∧ text = [ch]}

/-- `[a-z0-9]+`. -/
def word : Language Char := idChar * KStar.kstar idChar

/-- `[a-z0-9]+(-[a-z0-9]+)*`. -/
def slugs : Language Char := word * KStar.kstar ({['-']} * word)

/-! ## Slugs -/

/-- A text of the characters of words, at least one. -/
structure IsWord (text : List Char) : Prop where
  ne_nil : text ≠ []
  chars : ∀ ch ∈ text, isIdChar ch = true

/-- A slug grows by one word after the other. -/
inductive IsSlug : List Char → Prop
  | first {text : List Char} (h : IsWord text) : IsSlug text
  | next {slug text : List Char} (hslug : IsSlug slug) (h : IsWord text) :
      IsSlug (slug ++ '-' :: text)

theorem IsWord.mem_word {text : List Char} (h : IsWord text) : text ∈ word := by
  obtain ⟨hne, hchars⟩ := h
  cases text with
  | nil => exact absurd rfl hne
  | cons ch text =>
      refine Language.mem_mul.mpr ⟨[ch], ⟨ch, hchars ch List.mem_cons_self, rfl⟩, text, ?_, rfl⟩
      refine Language.mem_kstar.mpr ⟨text.map fun ch => [ch], ?_, ?_⟩
      · exact (List.flatMap_singleton' text).symm
      · intro one hone
        obtain ⟨c, hc, rfl⟩ := List.mem_map.mp hone
        exact ⟨c, hchars c (List.mem_cons_of_mem _ hc), rfl⟩

theorem IsWord.singleton {ch : Char} (h : isIdChar ch = true) : IsWord [ch] := by
  constructor
  · simp
  · simpa using h

theorem IsWord.concat {text : List Char} (htext : IsWord text) {ch : Char}
    (h : isIdChar ch = true) : IsWord (text ++ [ch]) := by
  constructor
  · simp
  · intro c hc
    rcases List.mem_append.mp hc with hc | hc
    · exact htext.chars c hc
    · rw [List.mem_singleton.mp hc]
      exact h

namespace IsSlug

variable {slug : List Char}

theorem mem_slugs (h : IsSlug slug) : slug ∈ slugs := by
  induction h with
  | first htext =>
      exact Language.mem_mul.mpr ⟨_, htext.mem_word, [], Language.nil_mem_kstar _,
        List.append_nil _⟩
  | @next slug text hslug htext ih =>
      obtain ⟨first, hfirst, rest, hrest, rfl⟩ := Language.mem_mul.mp ih
      obtain ⟨words, rfl, hwords⟩ := Language.mem_kstar.mp hrest
      refine Language.mem_mul.mpr ⟨first, hfirst, _, ?_, (List.append_assoc _ _ _).symm⟩
      refine Language.mem_kstar.mpr ⟨words ++ ['-' :: text], by simp, ?_⟩
      intro one hone
      rcases List.mem_append.mp hone with hone | hone
      · exact hwords one hone
      · rw [List.mem_singleton.mp hone]
        exact Language.mem_mul.mpr ⟨['-'], rfl, _, htext.mem_word, rfl⟩

theorem concat (h : IsSlug slug) {ch : Char} (hch : isIdChar ch = true) :
    IsSlug (slug ++ [ch]) := by
  cases h with
  | first htext => exact .first (htext.concat hch)
  | next hslug htext =>
      rw [List.append_assoc, List.cons_append]
      exact .next hslug (htext.concat hch)

theorem exists_eq_cons (h : IsSlug slug) : ∃ ch rest, slug = ch :: rest ∧ isIdChar ch = true := by
  induction h with
  | @first text htext =>
      cases text with
      | nil => exact absurd rfl htext.ne_nil
      | cons ch rest => exact ⟨ch, rest, rfl, htext.chars ch List.mem_cons_self⟩
  | next hslug htext ih =>
      obtain ⟨ch, rest, rfl, hch⟩ := ih
      exact ⟨ch, _, rfl, hch⟩

theorem exists_eq_concat (h : IsSlug slug) :
    ∃ init ch, slug = init ++ [ch] ∧ isIdChar ch = true := by
  have hlast : ∀ {text : List Char}, IsWord text →
      ∃ init ch, text = init ++ [ch] ∧ isIdChar ch = true := by
    intro text htext
    exact ⟨_, _, (List.dropLast_append_getLast htext.ne_nil).symm,
      htext.chars _ (List.getLast_mem htext.ne_nil)⟩
  cases h with
  | first htext => exact hlast htext
  | @next slug text hslug htext =>
      obtain ⟨init, ch, rfl, hch⟩ := hlast htext
      exact ⟨slug ++ '-' :: init, ch, by simp, hch⟩

theorem isIdChar_or (h : IsSlug slug) : ∀ ch ∈ slug, isIdChar ch = true ∨ ch = '-' := by
  induction h with
  | first htext => exact fun ch hch => Or.inl (htext.chars ch hch)
  | next hslug htext ih =>
      intro ch hch
      rcases List.mem_append.mp hch with hch | hch
      · exact ih ch hch
      · rcases List.mem_cons.mp hch with rfl | hch
        · exact Or.inr rfl
        · exact Or.inl (htext.chars ch hch)

end IsSlug

/-! ## Display names -/

theorem isLower_iff (ch : Char) : ch.isLower = true ↔ 97 ≤ ch.toNat ∧ ch.toNat ≤ 122 := by
  change (decide (97 ≤ ch.val) && decide (ch.val ≤ 122)) = true ↔ _
  rw [Bool.and_eq_true, decide_eq_true_eq, decide_eq_true_eq, UInt32.le_iff_toNat_le,
    UInt32.le_iff_toNat_le]
  exact Iff.rfl

theorem isDigit_iff (ch : Char) : ch.isDigit = true ↔ 48 ≤ ch.toNat ∧ ch.toNat ≤ 57 := by
  change (decide (48 ≤ ch.val) && decide (ch.val ≤ 57)) = true ↔ _
  rw [Bool.and_eq_true, decide_eq_true_eq, decide_eq_true_eq, UInt32.le_iff_toNat_le,
    UInt32.le_iff_toNat_le]
  exact Iff.rfl

theorem isIdChar_iff (ch : Char) : isIdChar ch = true ↔
    (97 ≤ ch.toNat ∧ ch.toNat ≤ 122) ∨ (48 ≤ ch.toNat ∧ ch.toNat ≤ 57) := by
  rw [isIdChar, Bool.or_eq_true, isLower_iff, isDigit_iff]

theorem isIdChar_toLower {ch : Char} (h : ch.isAlphanum = true) : isIdChar ch.toLower = true := by
  change ((ch.isUpper || ch.isLower) || ch.isDigit) = true at h
  rw [Bool.or_eq_true, Bool.or_eq_true, isLower_iff, isDigit_iff] at h
  delta Char.toLower
  rw [isIdChar_iff]
  split
  next hupper =>
    have hge : 65 ≤ ch.val.toNat := UInt32.le_iff_toNat_le.mp hupper.1
    have hle : ch.val.toNat ≤ 90 := UInt32.le_iff_toNat_le.mp hupper.2
    have hsum : (ch.val + ('a'.val - 'A'.val)).toNat = ch.val.toNat + 32 := by
      rw [UInt32.toNat_add]
      exact Nat.mod_eq_of_lt (show ch.val.toNat + 32 < 2 ^ 32 by omega)
    refine Or.inl ⟨?_, ?_⟩
    · rw [Char.toNat, hsum]
      omega
    · rw [Char.toNat, hsum]
      omega
  next hother =>
    rcases h with (hupper | hlower) | hdigit
    · exact absurd (of_decide_eq_true hupper) hother
    · exact Or.inl hlower
    · exact Or.inr hdigit

theorem utf8Size_of_isIdChar {ch : Char} (h : isIdChar ch = true) : ch.utf8Size = 1 := by
  have hle : ch.toNat ≤ 127 := by
    rw [isIdChar_iff] at h
    omega
  exact Char.utf8Size_eq_one_iff.mpr (UInt32.le_iff_toNat_le.mpr hle)

theorem ne_hyphen_of_isIdChar {ch : Char} (h : isIdChar ch = true) : ch ≠ '-' := by
  rintro rfl
  revert h
  decide

/-- What `slugify` holds: nothing, a slug, or a slug with a hyphen after it. -/
def Growing (slug : List Char) : Prop :=
  slug = [] ∨ IsSlug slug ∨ ∃ init, IsSlug init ∧ slug = init ++ ['-']

theorem Growing.concat {slug : List Char} (h : Growing slug) {ch : Char}
    (hch : isIdChar ch = true) : IsSlug (slug ++ [ch]) := by
  rcases h with rfl | hslug | ⟨init, hinit, rfl⟩
  · exact .first (.singleton hch)
  · exact hslug.concat hch
  · rw [List.append_assoc]
    exact .next hinit (.singleton hch)

theorem growing_slugChars {slug : List Char} (h : Growing slug) (rest : List Char) :
    Growing (slugChars slug rest) := by
  induction rest generalizing slug with
  | nil => exact h
  | cons ch rest ih =>
      rw [slugChars]
      split
      · exact h
      · split
        next hch => exact ih (Or.inr (Or.inl (h.concat (isIdChar_toLower hch))))
        · split
          next hlast =>
            apply ih
            rcases h with hnil | hslug | ⟨init, hinit, rfl⟩
            · exact absurd hnil hlast.1
            · exact Or.inr (Or.inr ⟨slug, hslug, rfl⟩)
            · exact absurd (by simp) hlast.2
          · exact ih h

theorem length_slugChars_le {slug : List Char} (h : slug.length ≤ maxSlugLen)
    (rest : List Char) : (slugChars slug rest).length ≤ maxSlugLen := by
  induction rest generalizing slug with
  | nil => exact h
  | cons ch rest ih =>
      rw [slugChars]
      split
      · exact h
      next hroom =>
        have hmore : ∀ c : Char, (slug ++ [c]).length ≤ maxSlugLen := by
          intro c
          rw [List.length_append, List.length_singleton]
          omega
        split
        · exact ih (hmore _)
        · split
          · exact ih (hmore _)
          · exact ih h

theorem rdropWhile_of_growing {slug : List Char} (h : Growing slug) :
    slug.rdropWhile (· == '-') = [] ∨ IsSlug (slug.rdropWhile (· == '-')) := by
  have hkeep : ∀ {kept : List Char}, IsSlug kept → kept.rdropWhile (· == '-') = kept := by
    intro kept hkept
    obtain ⟨init, ch, rfl, hch⟩ := hkept.exists_eq_concat
    exact List.rdropWhile_concat_neg _ _ _ (by simp [ne_hyphen_of_isIdChar hch])
  rcases h with rfl | hslug | ⟨init, hinit, rfl⟩
  · exact Or.inl rfl
  · rw [hkeep hslug]
    exact Or.inr hslug
  · rw [List.rdropWhile_concat_pos _ _ _ (by simp), hkeep hinit]
    exact Or.inr hinit

theorem isSlug_fallbackSlug : IsSlug fallbackSlug := by
  refine .first ⟨by decide, ?_⟩
  rw [← List.all_eq_true]
  decide

theorem isSlug_slugify (displayName : String) : IsSlug (slugify displayName) := by
  have hgrowing := growing_slugChars (Or.inl rfl) displayName.toList
  simp only [slugify]
  split
  · exact isSlug_fallbackSlug
  next hne =>
    rcases rdropWhile_of_growing hgrowing with hnil | hslug
    · exact absurd (by rw [hnil]; rfl) hne
    · exact hslug

theorem length_slugify_le (displayName : String) : (slugify displayName).length ≤ maxSlugLen := by
  have hlen := @length_slugChars_le [] (Nat.zero_le maxSlugLen) displayName.toList
  simp only [slugify]
  split
  · decide
  · exact (List.rdropWhile_prefix _ _).length_le.trans hlen

/-! ## Valid IDs -/

theorem isValidId_of_isSlug {slug : List Char} (h : IsSlug slug) (hlen : slug.length ≤ maxIdLen) :
    isValidId (String.ofList slug) = true := by
  have hbytes : Utf8.utf8Len slug = slug.length := by
    apply Utf8.utf8Len_eq_length
    intro ch hch
    rcases h.isIdChar_or ch hch with hid | rfl
    · exact utf8Size_of_isIdChar hid
    · rfl
  have hhead : slug.head? ≠ some '-' := by
    obtain ⟨ch, rest, rfl, hch⟩ := h.exists_eq_cons
    simp [ne_hyphen_of_isIdChar hch]
  have hlast : slug.getLast? ≠ some '-' := by
    obtain ⟨init, ch, rfl, hch⟩ := h.exists_eq_concat
    simp [ne_hyphen_of_isIdChar hch]
  have hchars : ∀ ch ∈ slug, (ch.isLower || ch.isDigit || ch == '-') = true := by
    intro ch hch
    rcases h.isIdChar_or ch hch with hid | rfl
    · rw [isIdChar] at hid
      rw [hid, Bool.true_or]
    · rfl
  have hne : slug ≠ [] := by
    obtain ⟨ch, rest, rfl, -⟩ := h.exists_eq_cons
    exact List.cons_ne_nil ch rest
  simp only [isValidId, String.toList_ofList, Bool.and_eq_true, Bool.not_eq_true',
    List.isEmpty_eq_false_iff, bne_iff_ne, decide_eq_true_eq, List.all_eq_true]
  exact ⟨⟨⟨⟨hne, by omega⟩, hhead⟩, hlast⟩, hchars⟩

theorem length_of_isSuffix {suffix : String} (h : isSuffix suffix = true) :
    suffix.toList.length = suffixLen := by
  simp only [isSuffix, Bool.and_eq_true, beq_iff_eq] at h
  rw [String.length_toList]
  exact h.1

theorem isWord_of_isSuffix {suffix : String} (h : isSuffix suffix = true) :
    IsWord suffix.toList := by
  constructor
  · apply List.ne_nil_of_length_pos
    rw [length_of_isSuffix h]
    decide
  · simp only [isSuffix, Bool.and_eq_true, List.all_eq_true] at h
    exact h.2

theorem isValidId_slugify (displayName : String) {suffix : String} (h : isSuffix suffix = true) :
    isValidId (String.ofList (slugify displayName ++ '-' :: suffix.toList)) = true := by
  apply isValidId_of_isSlug (.next (isSlug_slugify displayName) (isWord_of_isSuffix h))
  have hslug := length_slugify_le displayName
  rw [List.length_append, List.length_cons, length_of_isSuffix h]
  simp only [maxSlugLen, suffixLen, maxIdLen] at hslug ⊢
  omega

theorem isValidId_newId {workspaces : Workspaces} {registration : McpWorkspaceRegistration}
    {draws : List String} {id : String} (hdraws : draws.all isSuffix = true)
    (h : newId workspaces registration draws = some id) : isValidId id = true := by
  have hmint : mintId registration.displayName draws workspaces = some id →
      isValidId id = true := by
    intro hmint
    obtain ⟨suffix, hsuffix, rfl⟩ := List.mem_map.mp (List.mem_of_find?_eq_some hmint)
    exact isValidId_slugify _ (List.all_eq_true.mp hdraws suffix hsuffix)
  unfold newId at h
  cases hid : registration.workspaceId with
  | none =>
      rw [hid] at h
      exact hmint h
  | some supplied =>
      simp only [hid] at h
      split at h
      next hvalid =>
        cases h
        exact hvalid
      · exact hmint h

/-! ## Registrations -/

/-- A registration that names no record gets an ID that is not taken, and leaves all records
as they are. -/
theorem register_of_new {workspaces more : Workspaces} {registration : McpWorkspaceRegistration}
    {draws : List String} {bytes : List UInt8} {id token : String}
    (hnew : existing workspaces registration = none)
    (h : register workspaces registration draws bytes = some (more, id, token)) :
    newId workspaces registration draws = some id ∧ id ∉ workspaces ∧
      ∀ other w, workspaces.lookup other = some w → more.lookup other = some w := by
  simp only [register, hnew] at h
  obtain ⟨minted, hminted, heq⟩ := Option.map_eq_some_iff.mp h
  cases heq
  have hfree := lookup_newId hnew hminted
  refine ⟨hminted, AList.lookup_eq_none.mp hfree, ?_⟩
  intro other w hw
  rw [AList.lookup_insert_ne, hw]
  rintro rfl
  cases hfree.symm.trans hw

/-- A registration that names a record writes its display name, and its token if one is
supplied. -/
theorem register_of_known {workspaces more : Workspaces}
    {registration : McpWorkspaceRegistration} {draws : List String} {bytes : List UInt8}
    {id known token : String} {w : Workspace} (hknown : registration.workspaceId = some known)
    (hw : workspaces.lookup known = some w)
    (h : register workspaces registration draws bytes = some (more, id, token)) :
    id = known ∧ more.lookup known = some { w with
        displayName := registration.displayName
        token := (suppliedToken registration).getD w.token } ∧
      ∀ other, other ≠ known → more.lookup other = workspaces.lookup other := by
  have hexisting : existing workspaces registration = some (known, w) := by
    rw [existing, hknown, Option.bind_some, hw, Option.map_some]
  simp only [register, hexisting] at h
  cases h
  refine ⟨rfl, AList.lookup_insert _, ?_⟩
  intro other hother
  exact AList.lookup_insert_ne hother

end Workspaces

namespace Registry

open Workspaces

def AllValid (r : Registry) : Prop := ∀ id ∈ r.workspaces, isValidId id = true

theorem allValid_modify {r : Registry} (h : r.AllValid) (id : String)
    (f : Workspace → Workspace) : (r.modify id f).AllValid := by
  intro other hother
  simp only [Registry.modify, Workspaces.modify] at hother
  split at hother
  · exact h other hother
  next w hw =>
    rcases (AList.mem_insert _).mp hother with rfl | hother
    · exact h other (AList.lookup_isSome.mp (by rw [hw, Option.isSome_some]))
    · exact h other hother

theorem allValid_register {r : Registry} (h : r.AllValid)
    {registration : McpWorkspaceRegistration} {draws : List String} {bytes : List UInt8}
    {result : Workspaces × String × String} (hdraws : draws.all isSuffix = true)
    (hresult : r.workspaces.register registration draws bytes = some result) :
    ∀ id ∈ result.1, isValidId id = true := by
  have hinsert : ∀ {id : String} (w : Workspace), isValidId id = true →
      ∀ other ∈ r.workspaces.insert id w, isValidId other = true := by
    intro id w hid other hother
    rcases (AList.mem_insert _).mp hother with rfl | hother
    · exact hid
    · exact h other hother
  unfold register at hresult
  cases he : existing r.workspaces registration with
  | some found =>
      obtain ⟨id, w⟩ := found
      rw [he] at hresult
      cases hresult
      have hw := (lookup_of_existing he).2
      exact hinsert _ (h id (AList.lookup_isSome.mp (by rw [hw, Option.isSome_some])))
  | none =>
      rw [he] at hresult
      obtain ⟨id, hid, rfl⟩ := Option.map_eq_some_iff.mp hresult
      exact hinsert _ (isValidId_newId hdraws hid)

theorem allValid_step {r t : Registry} {a : Act} (h : r.AllValid)
    (hstep : machine.step r a = some t) : t.AllValid := by
  cases change_of_step hstep with
  | register hresult =>
      simp only [machine, step] at hstep
      split at hstep
      next hdrawn =>
        rw [Bool.and_eq_true] at hdrawn
        exact allValid_register h hdrawn.1 hresult
      · cases hstep
  | deregister id =>
      intro other hother
      simp only [deregister] at hother
      split at hother
      · exact h other hother
      · exact h other (AList.mem_erase.mp hother).2
  | attached hwindow hw => exact allValid_modify h _ _
  | unknown hwindow hw => exact h
  | handleMessage hwindow => exact allValid_modify h _ _
  | detachChannel hwindow horphans => exact allValid_modify h _ _
  | dropReceiver hwindow => exact allValid_modify h _ _
  | added hlease hw => exact allValid_modify h _ _
  | unlisted hlease hw => exact h
  | removeClient hlease => exact allValid_modify h _ _
  | enqueue id now call request => exact allValid_modify h _ _
  | cancelPending id requestId => exact allValid_modify h _ _

theorem allValid_run {acts : List Act} {r : Registry} (hrun : machine.run new acts = some r) :
    r.AllValid := by
  refine machine.run_of_step (fun s a t hs h => allValid_step hs h) ?_ hrun
  intro id hid
  exact absurd hid (AList.notMem_empty id)

/-- Every display name gives a slug of one to 24 characters, with every suffix it makes a
valid ID, and so all IDs of every registry that is reached are valid. No registration that
names no record replaces one, and one that names a record keeps it, apart from its display
name and its token. -/
theorem ids_routable (acts : List Act) {r : Registry} (hrun : machine.run new acts = some r) :
    (∀ displayName, 1 ≤ (slugify displayName).length ∧ (slugify displayName).length ≤ 24 ∧
      slugify displayName ∈ slugs ∧ ∀ suffix, isSuffix suffix = true →
        isValidId (String.ofList (slugify displayName ++ '-' :: suffix.toList)) = true) ∧
    (∀ id ∈ r.workspaces, isValidId id = true) ∧
    ∀ registration draws bytes more id token,
      r.workspaces.register registration draws bytes = some (more, id, token) →
      (existing r.workspaces registration = none → id ∉ r.workspaces ∧
        ∀ other w, r.workspaces.lookup other = some w → more.lookup other = some w) ∧
      ∀ known w, registration.workspaceId = some known → r.workspaces.lookup known = some w →
        id = known ∧ more.lookup known = some { w with
          displayName := registration.displayName
          token := (suppliedToken registration).getD w.token } ∧
        ∀ other, other ≠ known → more.lookup other = r.workspaces.lookup other := by
  refine ⟨?_, allValid_run hrun, ?_⟩
  · intro displayName
    have hslug := isSlug_slugify displayName
    refine ⟨?_, length_slugify_le displayName, hslug.mem_slugs, ?_⟩
    · obtain ⟨ch, rest, heq, -⟩ := hslug.exists_eq_cons
      rw [heq]
      exact Nat.succ_le_succ (Nat.zero_le _)
    · exact fun suffix hsuffix => isValidId_slugify displayName hsuffix
  · intro registration draws bytes more id token hregister
    refine ⟨?_, ?_⟩
    · intro hnew
      exact (register_of_new hnew hregister).2
    · intro known w hknown hw
      exact register_of_known hknown hw hregister

/-- Two workspaces of the same name, the second drawn the suffix of the first before its
own, and the first registered again. -/
def namesakes : List Act :=
  [.register ⟨none, "My Project", none⟩ ["abc123"] (List.replicate 32 0),
    .register ⟨some "../sessions", "My Project", none⟩ ["abc123", "x9y8z7"]
      (List.replicate 32 1),
    .register ⟨some "my-project-abc123", "Renamed", none⟩ [] (List.replicate 32 2)]

theorem ids_routable_namesakes :
    ∃ r, machine.run new namesakes = some r ∧ "my-project-x9y8z7" ∈ r.workspaces ∧
      ∀ id ∈ r.workspaces, isValidId id = true := by
  refine ⟨_, rfl, by decide, (ids_routable namesakes rfl).2.1⟩

end Registry

end Kallichore
