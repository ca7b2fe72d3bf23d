import Kallichore.StdioBridge.Events

/-!
# How an event stream is framed

A frame is decoded on its own, so a character that a frame ends inside is decoded as
replacement characters. What marks lines, events and data are characters of one byte, which
no frame can cut, so the events have the same lines of data all the same; but a character of
their data may have been replaced. Frames make no difference if and only if none of them ends
inside a character of a data line.
-/

namespace Kallichore

namespace EventStream

open Utf8

/-! ## Texts of marked characters -/

section Keyed

variable {α β : Type*} (key : α → Char)

/-- The lines of an event that has data, if it has any. -/
def blockData (block : List (List α)) : Option (List (List α)) :=
  if block.filterMap (dataLine key) = [] then none
  else some (block.filterMap (dataLine key))

/-- The data of all events of a text, line by line. -/
def dataOf (text : List α) : List (List (List α)) :=
  (((text.filter fun a => key a ≠ '\r').splitOnP fun a => key a = '\n').splitOnP
    List.isEmpty).filterMap (blockData key)

/-- A marked character becomes marked characters that show the same where it is one of the
characters that the format is made of, and none of these otherwise. -/
structure Keeps (key : α → Char) (key' : β → Char) (g : α → List β) (a : α) : Prop where
  ascii : (key a).toNat < 128 → ∃ b, g a = [b] ∧ key' b = key a
  other : 128 ≤ (key a).toNat → g a ≠ [] ∧ ∀ b ∈ g a, 128 ≤ (key' b).toNat

variable {key} {key' : β → Char} {g : α → List β}

theorem Keeps.ne_nil {a : α} (h : Keeps key key' g a) : g a ≠ [] := by
  rcases Nat.lt_or_ge (key a).toNat 128 with hascii | hother
  · obtain ⟨b, hb, -⟩ := h.ascii hascii
    rw [hb]
    exact List.cons_ne_nil b []
  · exact (h.other hother).1

/-- A character of the format is shown by exactly one element, or by none. -/
theorem Keeps.eq_iff {a : α} (h : Keeps key key' g a) {c : Char} (hc : c.toNat < 128) {b : β}
    (hb : b ∈ g a) : key' b = c ↔ key a = c := by
  rcases Nat.lt_or_ge (key a).toNat 128 with hascii | hother
  · obtain ⟨b', hg, hkey⟩ := h.ascii hascii
    rw [hg, List.mem_singleton] at hb
    rw [hb, hkey]
  · have hbig := (h.other hother).2 b hb
    constructor
    · rintro rfl
      omega
    · rintro rfl
      omega

theorem filter_flatMap (h : ∀ a, Keeps key key' g a) {c : Char} (hc : c.toNat < 128)
    (text : List α) :
    (text.flatMap g).filter (fun b => key' b ≠ c) =
      (text.filter fun a => key a ≠ c).flatMap g := by
  induction text with
  | nil => rfl
  | cons a text ih =>
      rw [List.flatMap_cons, List.filter_append, ih]
      by_cases ha : key a = c
      · rw [List.filter_cons_of_neg (by simpa using ha)]
        have hnone : (g a).filter (fun b => key' b ≠ c) = [] := by
          rw [List.filter_eq_nil_iff]
          intro b hb
          simpa using ((h a).eq_iff hc hb).mpr ha
        rw [hnone, List.nil_append]
      · rw [List.filter_cons_of_pos (by simpa using ha), List.flatMap_cons]
        have hall : (g a).filter (fun b => key' b ≠ c) = g a := by
          rw [List.filter_eq_self]
          intro b hb
          simpa using fun hb' => ha (((h a).eq_iff hc hb).mp hb')
        rw [hall]

theorem splitOnP_append_of_forall {p : β → Bool} {front : List β}
    (h : ∀ b ∈ front, p b = false) (rest : List β) :
    (front ++ rest).splitOnP p = (rest.splitOnP p).modifyHead (front ++ ·) := by
  obtain ⟨first, later, hlater⟩ := List.exists_cons_of_ne_nil (List.splitOnP_ne_nil p rest)
  induction front with
  | nil =>
      rw [List.nil_append, hlater]
      rfl
  | cons b front ih =>
      obtain ⟨hb, hfront⟩ := List.forall_mem_cons.mp h
      rw [List.cons_append, List.splitOnP_cons_eq_if_modifyHead, hb, if_neg Bool.false_ne_true,
        ih hfront, hlater]
      rfl

theorem splitOnP_flatMap (h : ∀ a, Keeps key key' g a) {c : Char} (hc : c.toNat < 128)
    (text : List α) :
    (text.flatMap g).splitOnP (fun b => key' b = c) =
      (text.splitOnP fun a => key a = c).map (List.flatMap g) := by
  induction text with
  | nil => rfl
  | cons a text ih =>
      rw [List.flatMap_cons, List.splitOnP_cons_eq_if_modifyHead]
      by_cases ha : key a = c
      · obtain ⟨b, hg, hkey⟩ := (h a).ascii (by rwa [ha])
        rw [hg, List.singleton_append, List.splitOnP_cons_eq_if_modifyHead,
          if_pos (decide_eq_true (hkey.trans ha)), if_pos (decide_eq_true ha), ih]
        rfl
      · obtain ⟨first, later, hlater⟩ := List.exists_cons_of_ne_nil
          (List.splitOnP_ne_nil (fun a => decide (key a = c)) text)
        rw [splitOnP_append_of_forall, ih, if_neg (by simpa using ha), hlater]
        · rfl
        · intro b hb
          exact decide_eq_false fun hb' => ha (((h a).eq_iff hc hb).mp hb')

theorem splitOnP_map {p : α → Bool} {q : β → Bool} {f : α → β} (h : ∀ a, q (f a) = p a)
    (l : List α) : (l.map f).splitOnP q = (l.splitOnP p).map (List.map f) := by
  induction l with
  | nil => rfl
  | cons a l ih =>
      obtain ⟨first, later, hlater⟩ := List.exists_cons_of_ne_nil (List.splitOnP_ne_nil p l)
      rw [List.map_cons, List.splitOnP_cons_eq_if_modifyHead,
        List.splitOnP_cons_eq_if_modifyHead, h, ih, hlater]
      split
      · rfl
      · rfl

theorem stripPrefix_flatMap (h : ∀ a, Keeps key key' g a) {chars : List Char}
    (hchars : ∀ c ∈ chars, c.toNat < 128) (text : List α) :
    stripPrefix key' chars (text.flatMap g) =
      (stripPrefix key chars text).map (List.flatMap g) := by
  induction chars generalizing text with
  | nil => rfl
  | cons c chars ih =>
      obtain ⟨hc, hrest⟩ := List.forall_mem_cons.mp hchars
      cases text with
      | nil => rfl
      | cons a text =>
          rw [stripPrefix, List.flatMap_cons]
          by_cases ha : key a = c
          · obtain ⟨b, hg, hkey⟩ := (h a).ascii (by rwa [ha])
            rw [hg, List.singleton_append, stripPrefix, if_pos (hkey.trans ha), if_pos ha, ih hrest]
          · obtain ⟨b, bs, hg⟩ := List.exists_cons_of_ne_nil (h a).ne_nil
            have hb : key' b ≠ c := fun hb =>
              ha (((h a).eq_iff hc (by rw [hg]; exact List.mem_cons_self)).mp hb)
            rw [hg, List.cons_append, stripPrefix, if_neg hb, if_neg ha]
            rfl

theorem dataLine_flatMap (h : ∀ a, Keeps key key' g a) (line : List α) :
    dataLine key' (line.flatMap g) = (dataLine key line).map (List.flatMap g) := by
  rw [dataLine, dataLine, stripPrefix_flatMap h (by simp), Option.map_map, Option.map_map]
  congr 1
  funext data
  have hspace : ∀ c ∈ [' '], c.toNat < 128 := by simp
  simp only [Function.comp_apply, stripPrefix_flatMap h hspace]
  cases stripPrefix key [' '] data with
  | none => rfl
  | some data => rfl

theorem blockData_map (h : ∀ a, Keeps key key' g a) (block : List (List α)) :
    blockData key' (block.map (List.flatMap g)) =
      (blockData key block).map (List.map (List.flatMap g)) := by
  have hdata : (block.map (List.flatMap g)).filterMap (dataLine key') =
      (block.filterMap (dataLine key)).map (List.flatMap g) := by
    rw [List.filterMap_map, List.map_filterMap]
    congr 1
    funext line
    exact dataLine_flatMap h line
  rw [blockData, blockData, hdata]
  by_cases hempty : block.filterMap (dataLine key) = []
  · rw [if_pos hempty, hempty]
    rfl
  · rw [if_neg hempty, if_neg (by simpa using hempty)]
    rfl

theorem dataOf_flatMap (h : ∀ a, Keeps key key' g a) (text : List α) :
    dataOf key' (text.flatMap g) = (dataOf key text).map (List.map (List.flatMap g)) := by
  have hempty : ∀ line : List α, (line.flatMap g).isEmpty = line.isEmpty := by
    intro line
    cases line with
    | nil => rfl
    | cons a line =>
        rw [List.flatMap_cons]
        exact List.isEmpty_eq_false_iff.mpr (List.append_ne_nil_of_left_ne_nil (h a).ne_nil _)
  rw [dataOf, dataOf, filter_flatMap h (by decide), splitOnP_flatMap h (by decide),
    splitOnP_map hempty, List.filterMap_map, List.map_filterMap]
  congr 1
  funext block
  exact blockData_map h block

end Keyed

/-! ## Frames -/

theorem filterMap_blockMessage_eq (parse : List Char → Option Value) (text : List Char) :
    (eventBlocks (text.filter fun c => c ≠ '\r')).filterMap (blockMessage parse) =
      (dataOf id text).filterMap fun data => parse (['\n'].intercalate data) := by
  have hblock : blockMessage parse = fun block =>
      (blockData id block).bind fun data => parse (['\n'].intercalate data) := by
    funext block
    rw [blockMessage, joinData, blockData]
    split
    · rfl
    · rfl
  rw [hblock, dataOf, List.filterMap_filterMap]
  rfl

/-- No frame ends inside a character of the data of an event. -/
def DataWhole (text : List Char) (frames : List (List UInt8)) : Prop :=
  ∀ data ∈ dataOf Prod.fst (withOffsets 0 text), ∀ line ∈ data, ∀ x ∈ line,
    ¬ IsCut (pieceEnds 0 frames) x

/-- A character of a text with its offset, and what it is decoded as. -/
abbrev Decoded (ends : List ℕ) := { x : (Char × ℕ) × List Char // DecodedAs ends x }

namespace Decoded

variable {ends : List ℕ}

def char (x : Decoded ends) : Char := x.1.1.1

theorem toNat_replacement : 128 ≤ replacement.toNat := by decide

theorem not_isCut_of_lt {x : Char × ℕ} (h : x.1.toNat < 128) : ¬ IsCut ends x := by
  rintro ⟨m, -, hlt, hend⟩
  have hsize : x.1.utf8Size = 1 := Char.utf8Size_eq_one_iff.mpr (UInt32.le_iff_toNat_le.mpr
    (Nat.le_of_lt_succ h))
  omega

theorem keeps_char (x : Decoded ends) : Keeps char id (fun x => [x.char]) x where
  ascii _ := ⟨x.char, rfl, rfl⟩
  other h := ⟨List.cons_ne_nil _ _, List.forall_mem_singleton.mpr h⟩

theorem keeps_offset (x : Decoded ends) : Keeps char Prod.fst (fun x => [x.1.1]) x where
  ascii _ := ⟨x.1.1, rfl, rfl⟩
  other h := ⟨List.cons_ne_nil _ _, List.forall_mem_singleton.mpr h⟩

theorem keeps_decoded (x : Decoded ends) : Keeps char id (fun x => x.1.2) x where
  ascii h := ⟨x.char, x.2.whole (not_isCut_of_lt h), rfl⟩
  other h := by
    by_cases hcut : IsCut ends x.1.1
    · obtain ⟨hlength, hall⟩ := x.2.cut hcut
      refine ⟨List.ne_nil_of_length_pos (by omega), ?_⟩
      intro d hd
      rw [id, hall d hd]
      exact toNat_replacement
    · rw [x.2.whole hcut]
      exact ⟨List.cons_ne_nil _ _, List.forall_mem_singleton.mpr h⟩

theorem one_le_length (x : Decoded ends) : 1 ≤ x.1.2.length :=
  List.length_pos_iff.mpr x.keeps_decoded.ne_nil

theorem length_le (line : List (Decoded ends)) :
    line.length ≤ (line.flatMap fun x => x.1.2).length := by
  induction line with
  | nil => exact Nat.le_refl 0
  | cons x line ih =>
      have hone := x.one_le_length
      rw [List.flatMap_cons, List.length_append, List.length_cons]
      omega

/-- A text that is decoded to no more characters than it has has no cut character. -/
theorem not_isCut_of_length_le {line : List (Decoded ends)}
    (h : (line.flatMap fun x => x.1.2).length ≤ line.length) :
    ∀ x ∈ line, ¬ IsCut ends x.1.1 := by
  induction line with
  | nil => exact List.forall_mem_nil _
  | cons x line ih =>
      have hone := x.one_le_length
      have hrest := length_le line
      rw [List.flatMap_cons, List.length_append, List.length_cons] at h
      refine List.forall_mem_cons.mpr ⟨fun hcut => ?_, ih (by omega)⟩
      have htwo := (x.2.cut hcut).1
      omega

theorem flatMap_eq_of_not_isCut {line : List (Decoded ends)}
    (h : ∀ x ∈ line, ¬ IsCut ends x.1.1) :
    (line.flatMap fun x => x.1.2) = line.flatMap fun x => [x.char] := by
  induction line with
  | nil => rfl
  | cons x line ih =>
      obtain ⟨hx, hline⟩ := List.forall_mem_cons.mp h
      rw [List.flatMap_cons, List.flatMap_cons, ih hline, x.2.whole hx]
      rfl

/-- The bytes of lines that are joined: those of the lines and one between two of them. -/
theorem length_join {α : Type} (g : α → List Char) (data : List (List α)) :
    (['\n'].intercalate (data.map (List.flatMap g))).length =
      (data.flatten.flatMap g).length + (data.length - 1) := by
  induction data with
  | nil => rfl
  | cons line data ih =>
      cases data with
      | nil => simp [List.intercalate]
      | cons next data =>
          have hjoin : ['\n'].intercalate ((line :: next :: data).map (List.flatMap g)) =
              line.flatMap g ++ '\n' ::
                ['\n'].intercalate ((next :: data).map (List.flatMap g)) := rfl
          have hflatten : (line :: next :: data).flatten = line ++ (next :: data).flatten := rfl
          rw [hjoin, List.length_append, List.length_cons, ih, hflatten, List.flatMap_append,
            List.length_append]
          simp only [List.length_cons]
          omega

/-- The data of an event is decoded as it is if and only if no frame cuts it. -/
theorem join_eq_iff (data : List (List (Decoded ends))) :
    ['\n'].intercalate (data.map (List.flatMap fun x => x.1.2)) =
        ['\n'].intercalate (data.map (List.flatMap fun x => [x.char])) ↔
      ∀ line ∈ data, ∀ x ∈ line, ¬ IsCut ends x.1.1 := by
  constructor
  · intro heq line hline x hx
    have hlength := congrArg List.length heq
    rw [length_join, length_join, ← List.map_eq_flatMap, List.length_map] at hlength
    exact not_isCut_of_length_le (by omega) x (List.mem_flatten_of_mem hline hx)
  · intro hwhole
    congr 1
    apply List.map_congr_left
    intro line hline
    exact flatMap_eq_of_not_isCut (hwhole line hline)

end Decoded

theorem exists_dataOf {text : List Char} {frames : List (List UInt8)}
    (h : frames.flatten = encode text) :
    ∃ data : List (List (List (Decoded (pieceEnds 0 frames)))),
      dataOf id text = data.map (List.map (List.flatMap fun x => [x.char])) ∧
      dataOf id (frames.flatMap lossy) = data.map (List.map (List.flatMap fun x => x.1.2)) ∧
      dataOf Prod.fst (withOffsets 0 text) =
        data.map (List.map (List.flatMap fun x => [x.1.1])) := by
  obtain ⟨w, hfst, hsnd, hall⟩ := exists_decodedAs 0 h
  have hval : (w.attachWith _ hall).map Subtype.val = w := List.attachWith_map_subtype_val hall
  have hoffsets : (w.attachWith _ hall).flatMap (fun x => [x.1.1]) = withOffsets 0 text := by
    rw [← List.map_eq_flatMap, ← hfst]
    conv_rhs => rw [← hval, List.map_map]
    rfl
  have htext : (w.attachWith _ hall).flatMap (fun x => [Decoded.char x]) = text := by
    rw [← List.map_eq_flatMap, ← map_fst_withOffsets 0 text, ← hoffsets, ← List.map_eq_flatMap,
      List.map_map]
    rfl
  have hdecoded : (w.attachWith _ hall).flatMap (fun x => x.1.2) = frames.flatMap lossy := by
    rw [← hsnd]
    conv_rhs => rw [← hval, List.flatMap_map]
  refine ⟨dataOf Decoded.char (w.attachWith _ hall), ?_, ?_, ?_⟩
  · rw [← dataOf_flatMap Decoded.keeps_char, htext]
  · rw [← dataOf_flatMap Decoded.keeps_decoded, hdecoded]
  · rw [← dataOf_flatMap Decoded.keeps_offset, hoffsets]

theorem dataWhole_iff {text : List Char} {frames : List (List UInt8)}
    {data : List (List (List (Decoded (pieceEnds 0 frames))))}
    (h : dataOf Prod.fst (withOffsets 0 text) =
      data.map (List.map (List.flatMap fun x => [x.1.1]))) :
    DataWhole text frames ↔
      ∀ event ∈ data, ∀ line ∈ event, ∀ x ∈ line, ¬ IsCut (pieceEnds 0 frames) x.1.1 := by
  rw [DataWhole, h]
  simp only [List.forall_mem_map, ← List.map_eq_flatMap]

/-- Every way of framing a body delivers what the whole body delivers, which is one message
for each event whose data can be read, in order, if and only if no frame ends inside a
character of the data. -/
theorem readEvents_framed_iff {text : List Char} {frames : List (List UInt8)}
    (h : frames.flatten = encode text) :
    (∀ parse : List Char → Option Value,
      readEvents parse (frames.map BodyFrame.data) =
          readEvents parse [BodyFrame.data (encode text)] ∧
        readEvents parse [BodyFrame.data (encode text)] =
          ((eventBlocks (text.filter fun c => c ≠ '\r')).filterMap (blockMessage parse), true)) ↔
      DataWhole text frames := by
  have hwhole : ∀ parse : List Char → Option Value,
      readEvents parse [BodyFrame.data (encode text)] =
        ((eventBlocks (text.filter fun c => c ≠ '\r')).filterMap (blockMessage parse), true) := by
    intro parse
    have hone := readEvents_eq parse [encode text]
    rwa [List.flatMap_cons, List.flatMap_nil, List.append_nil, lossy_encode] at hone
  obtain ⟨data, htext, hdecoded, hoffsets⟩ := exists_dataOf h
  rw [dataWhole_iff hoffsets]
  simp only [hwhole, and_true, readEvents_eq, filterMap_blockMessage_eq, htext, hdecoded,
    Prod.mk.injEq]
  constructor
  · -- a reader that tells all texts apart
    intro hsame event hevent
    have htexts := hsame fun text => some (.string (String.ofList text))
    simp only [List.filterMap_map, Function.comp_def, List.filterMap_eq_map', List.map_inj_left,
      Value.string.injEq, String.ofList_inj] at htexts
    exact (Decoded.join_eq_iff event).mp (htexts event hevent)
  · intro hdata parse
    rw [List.filterMap_map, List.filterMap_map]
    apply List.filterMap_congr
    intro event hevent
    rw [Function.comp_apply, Function.comp_apply,
      (Decoded.join_eq_iff event).mpr (hdata event hevent)]

def readString : List Char → Option Value
  | '"' :: text =>
      if text.getLast? = some '"' ∧ '"' ∉ text.dropLast ∧ '\\' ∉ text.dropLast then
        some (.string (String.ofList text.dropLast))
      else none
  | _ => none

/-- An event with a letter of two bytes in a comment and another in its data. -/
def sampleBody : List Char := ":é\ndata: \"é\"\r\n\r\n".toList

/-- The frames of the event: one ends inside the comment's letter, one between a carriage
return and its line feed. -/
def sampleFrames : List (List UInt8) :=
  [[0x3A, 0xC3], [0xA9, 0x0A, 0x64, 0x61, 0x74, 0x61, 0x3A, 0x20, 0x22, 0xC3, 0xA9, 0x22, 0x0D],
    [0x0A, 0x0D, 0x0A]]

theorem readEvents_framed_iff_sample :
    sampleFrames.flatten = encode sampleBody ∧
      readEvents readString (sampleFrames.map BodyFrame.data) =
        readEvents readString [BodyFrame.data (encode sampleBody)] := by
  have hflatten : sampleFrames.flatten = encode sampleBody := by decide
  exact ⟨hflatten, ((readEvents_framed_iff hflatten).mpr (by
    unfold DataWhole IsCut
    decide) readString).1⟩

/-- The frames of the event when one ends inside the letter in its data. -/
def cutFrames : List (List UInt8) :=
  [[0x64, 0x61, 0x74, 0x61, 0x3A, 0x20, 0x22, 0xC3], [0xA9, 0x22, 0x0A, 0x0A]]

/-- A body that is JSON in one frame is another message in two. -/
theorem readEvents_cutFrames :
    cutFrames.flatten = encode "data: \"é\"\n\n".toList ∧
      readEvents readString (cutFrames.map BodyFrame.data) ≠
        readEvents readString [BodyFrame.data cutFrames.flatten] := by
  have htwo : readEvents readString (cutFrames.map BodyFrame.data) =
      ([.string (String.ofList [replacement, replacement])], true) := by
    rw [readEvents_eq]
    rfl
  have hone : readEvents readString [BodyFrame.data cutFrames.flatten] =
      ([.string (String.ofList ['é'])], true) := by
    have hbody : ([cutFrames.flatten].flatMap lossy).filter (fun c => c ≠ '\r') =
        "data: \"é\"\n\n".toList := by decide
    refine (readEvents_eq readString [cutFrames.flatten]).trans ?_
    rw [hbody]
    rfl
  refine ⟨by decide, ?_⟩
  rw [htwo, hone]
  intro h
  simp only [Prod.mk.injEq, List.cons.injEq, Value.string.injEq, String.ofList_inj] at h
  revert h
  decide

end EventStream

end Kallichore
