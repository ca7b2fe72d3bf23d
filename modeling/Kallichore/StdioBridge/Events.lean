import Kallichore.Jupyter.Message
import Kallichore.Lib.Utf8Lossy

/-!
# The event stream of a reply

The endpoint answers a request with one message or with a stream of events. `read_events`
reads the body frame by frame: each frame is decoded on its own and added to a buffer, and
whatever events are complete are delivered at once. An event ends with a blank line, and its
`data:` lines are a JSON text, which `parse` reads.

Once the frames are decoded it makes no difference how the text is spread over them: the
messages are those of the blocks of lines that blank lines separate, in order.
-/

namespace Kallichore

namespace EventStream

open Utf8

/-- What `body.frame()` yields. -/
inductive BodyFrame
  | data (bytes : List UInt8)
  | trailers
  | failed

/-- The text up to and with the first blank line, and what comes after it. -/
def splitEvent : List Char → Option (List Char × List Char)
  | [] => none
  | c :: text =>
      if c = '\n' ∧ text.head? = some '\n' then some (['\n', '\n'], text.tail)
      else (splitEvent text).map fun found => (c :: found.1, found.2)

theorem splitEvent_eq_some {text event rest : List Char}
    (h : splitEvent text = some (event, rest)) :
    ∃ body, event = body ++ ['\n', '\n'] ∧ text = event ++ rest := by
  induction text generalizing event with
  | nil => cases h
  | cons c text ih =>
      rw [splitEvent] at h
      split at h
      next hblank =>
        obtain ⟨rfl, hhead⟩ := hblank
        cases h
        obtain ⟨tail, rfl⟩ := List.head?_eq_some_iff.mp hhead
        exact ⟨[], rfl, rfl⟩
      next hnot =>
        obtain ⟨found, hfound, heq⟩ := Option.map_eq_some_iff.mp h
        cases heq
        obtain ⟨body, hbody, htext⟩ := ih hfound
        exact ⟨c :: body, by rw [hbody]; rfl, by rw [htext]; rfl⟩

/-- The events that are complete in a buffer, and what is left of it. -/
def drainEvents (buffer : List Char) : List (List Char) × List Char :=
  match _h : splitEvent buffer with
  | none => ([], buffer)
  | some found =>
      (found.1 :: (drainEvents found.2).1, (drainEvents found.2).2)
termination_by buffer.length
decreasing_by
  all_goals
    obtain ⟨body, hevent, htext⟩ := splitEvent_eq_some _h
    rw [htext, hevent, List.length_append, List.length_append]
    simp

def stripCr (line : List Char) : List Char :=
  if line.getLast? = some '\r' then line.dropLast else line

/-- `str::lines`: the end of the last line is optional. -/
def lines (text : List Char) : List (List Char) :=
  (text.splitOn '\n').dropLast.map stripCr ++
    ((text.splitOn '\n').getLast?.toList.filter fun line => line ≠ [])

/-- `strip_prefix`. The elements of a text show as characters: as themselves in the source,
and `key` says as which ones where more is known of each. -/
def stripPrefix {α : Type*} (key : α → Char) : List Char → List α → Option (List α)
  | [], text => some text
  | _ :: _, [] => none
  | c :: chars, a :: text => if key a = c then stripPrefix key chars text else none

def dataLine {α : Type*} (key : α → Char) (line : List α) : Option (List α) :=
  (stripPrefix key ['d', 'a', 't', 'a', ':'] line).map fun data =>
    (stripPrefix key [' '] data).getD data

def joinData (lines : List (List Char)) : Option (List Char) :=
  if lines.filterMap (dataLine id) = [] then none
  else some (['\n'].intercalate (lines.filterMap (dataLine id)))

/-- The message carried by one event, if it carries one. -/
def deliverEvent (parse : List Char → Option Value) (event : List Char) : Option Value :=
  (joinData (lines event)).bind parse

/-- What frames deliver with a buffer at hand, and whether the body was read to its end. -/
def readFrames (parse : List Char → Option Value) :
    List Char → List BodyFrame → List Value × Bool
  | buffer, [] => ((deliverEvent parse buffer).toList, true)
  | buffer, .data bytes :: frames =>
      let drained := drainEvents (buffer ++ (lossy bytes).filter fun c => c ≠ '\r')
      let later := readFrames parse drained.2 frames
      (drained.1.filterMap (deliverEvent parse) ++ later.1, later.2)
  | buffer, .trailers :: frames => readFrames parse buffer frames
  | _, .failed :: _ => ([], false)

def readEvents (parse : List Char → Option Value) (body : List BodyFrame) : List Value × Bool :=
  readFrames parse [] body

/-! ## One text -/

theorem drainEvents_of_none {buffer : List Char} (h : splitEvent buffer = none) :
    drainEvents buffer = ([], buffer) := by
  rw [drainEvents]
  split
  · rfl
  next found hfound =>
    rw [h] at hfound
    cases hfound

theorem drainEvents_of_some {buffer event rest : List Char}
    (h : splitEvent buffer = some (event, rest)) :
    drainEvents buffer = (event :: (drainEvents rest).1, (drainEvents rest).2) := by
  rw [drainEvents]
  split
  next hnone =>
    rw [h] at hnone
    cases hnone
  next found hfound =>
    rw [h] at hfound
    cases hfound
    rfl

theorem drainEvents_induction {motive : List Char → Prop}
    (last : ∀ buffer, splitEvent buffer = none → motive buffer)
    (event : ∀ buffer event rest, splitEvent buffer = some (event, rest) → motive rest →
      motive buffer) (buffer : List Char) : motive buffer := by
  induction hn : buffer.length using Nat.strongRecOn generalizing buffer with
  | ind n ih =>
      cases h : splitEvent buffer with
      | none => exact last buffer h
      | some found =>
          obtain ⟨body, hevent, htext⟩ := splitEvent_eq_some h
          refine event buffer found.1 found.2 h (ih found.2.length ?_ found.2 rfl)
          rw [← hn, htext, hevent, List.length_append, List.length_append]
          simp

theorem splitEvent_append {text event rest : List Char} (more : List Char)
    (h : splitEvent text = some (event, rest)) :
    splitEvent (text ++ more) = some (event, rest ++ more) := by
  induction text generalizing event with
  | nil => cases h
  | cons c text ih =>
      rw [splitEvent] at h
      rw [List.cons_append, splitEvent]
      split at h
      next hblank =>
        obtain ⟨rfl, hhead⟩ := hblank
        obtain ⟨tail, rfl⟩ := List.head?_eq_some_iff.mp hhead
        cases h
        rfl
      next hnot =>
        obtain ⟨found, hfound, heq⟩ := Option.map_eq_some_iff.mp h
        cases heq
        have hne : text ≠ [] := by
          rintro rfl
          cases hfound
        have hhead : (text ++ more).head? = text.head? := by
          rw [List.head?_append, Option.or_of_isSome (List.isSome_head?.mpr hne)]
        rw [hhead, if_neg hnot, ih hfound]
        rfl

theorem splitEvent_drainEvents (buffer : List Char) :
    splitEvent (drainEvents buffer).2 = none := by
  induction buffer using drainEvents_induction with
  | last buffer h => rw [drainEvents_of_none h, h]
  | event buffer event rest h ih => rwa [drainEvents_of_some h]

theorem drainEvents_append (buffer more : List Char) :
    drainEvents (buffer ++ more) =
      ((drainEvents buffer).1 ++ (drainEvents ((drainEvents buffer).2 ++ more)).1,
        (drainEvents ((drainEvents buffer).2 ++ more)).2) := by
  induction buffer using drainEvents_induction with
  | last buffer h => rw [drainEvents_of_none h, List.nil_append]
  | event buffer event rest h ih =>
      rw [drainEvents_of_some h, drainEvents_of_some (splitEvent_append more h), ih,
        List.cons_append]

/-- The messages of a text, the last event needing no end. -/
def deliverText (parse : List Char → Option Value) (text : List Char) : List Value :=
  (drainEvents text).1.filterMap (deliverEvent parse) ++
    (deliverEvent parse (drainEvents text).2).toList

theorem readFrames_data (parse : List Char → Option Value) {buffer : List Char}
    (h : splitEvent buffer = none) (frames : List (List UInt8)) :
    readFrames parse buffer (frames.map BodyFrame.data) =
      (deliverText parse (buffer ++ (frames.flatMap lossy).filter fun c => c ≠ '\r'), true) := by
  induction frames generalizing buffer with
  | nil =>
      rw [List.flatMap_nil, List.filter_nil, List.append_nil, deliverText, drainEvents_of_none h]
      rfl
  | cons bytes frames ih =>
      rw [List.map_cons, readFrames, List.flatMap_cons, List.filter_append, ← List.append_assoc,
        ih (splitEvent_drainEvents _), deliverText, deliverText,
        drainEvents_append (buffer ++ _), List.filterMap_append, List.append_assoc]

theorem readEvents_data (parse : List Char → Option Value) (frames : List (List UInt8)) :
    readEvents parse (frames.map BodyFrame.data) =
      (deliverText parse ((frames.flatMap lossy).filter fun c => c ≠ '\r'), true) := by
  rw [readEvents, readFrames_data parse rfl, List.nil_append]

/-! ## Blocks of lines -/

/-- The events of a text: the blocks of its lines that blank lines separate. -/
def eventBlocks (text : List Char) : List (List (List Char)) :=
  (text.splitOn '\n').splitOnP List.isEmpty

def blockMessage (parse : List Char → Option Value) (block : List (List Char)) : Option Value :=
  (joinData block).bind parse

theorem splitOn_append_newline (text more : List Char) :
    (text ++ '\n' :: more).splitOn '\n' = text.splitOn '\n' ++ more.splitOn '\n' := by
  rw [List.splitOn_eq_splitOnP, List.splitOnP_append_cons _ _ (by decide)]
  rfl

theorem splitOn_cons_of_ne {c : Char} (h : c ≠ '\n') (text : List Char) :
    (c :: text).splitOn '\n' = (text.splitOn '\n').modifyHead (List.cons c) := by
  rw [List.splitOn_cons_eq_if_modifyHead, if_neg (by simpa using h)]

theorem splitOn_nil : ([] : List Char).splitOn '\n' = [[]] := rfl

theorem joinData_congr {block block' : List (List Char)}
    (h : block.filterMap (dataLine id) = block'.filterMap (dataLine id)) :
    joinData block = joinData block' := by
  rw [joinData, joinData, h]

theorem mem_of_mem_splitOn {text line : List Char} {c : Char}
    (hline : line ∈ text.splitOn '\n') (hc : c ∈ line) : c ∈ text := by
  induction text generalizing line with
  | nil =>
      rw [splitOn_nil, List.mem_singleton] at hline
      rwa [hline] at hc
  | cons d text ih =>
      by_cases hd : d = '\n'
      · have hsplit : (d :: text).splitOn '\n' = [] :: text.splitOn '\n' := by
          rw [List.splitOn_cons_eq_if_modifyHead, if_pos (by simpa using hd)]
        rw [hsplit, List.mem_cons] at hline
        rcases hline with rfl | hline
        · cases hc
        · exact List.mem_cons_of_mem d (ih hline hc)
      · obtain ⟨first, rest, hrest⟩ := List.exists_cons_of_ne_nil (List.splitOn_ne_nil '\n' text)
        rw [splitOn_cons_of_ne hd, hrest, List.modifyHead_cons, List.mem_cons] at hline
        rcases hline with rfl | hline
        · rcases List.mem_cons.mp hc with rfl | hc
          · exact List.mem_cons_self
          · exact List.mem_cons_of_mem d (ih (by rw [hrest]; exact List.mem_cons_self) hc)
        · exact List.mem_cons_of_mem d (ih (by rw [hrest]; exact List.mem_cons_of_mem _ hline) hc)

theorem stripCr_eq {line : List Char} (h : '\r' ∉ line) : stripCr line = line := by
  rw [stripCr, if_neg]
  intro hlast
  exact h (List.mem_of_getLast? hlast)

/-- In a text without carriage returns the lines that have data are those between its
newlines. -/
theorem filterMap_lines {text : List Char} (h : '\r' ∉ text) :
    (lines text).filterMap (dataLine id) = (text.splitOn '\n').filterMap (dataLine id) := by
  have hne := List.splitOn_ne_nil '\n' text
  have hstrip : (text.splitOn '\n').dropLast.map stripCr = (text.splitOn '\n').dropLast := by
    conv_rhs => rw [← List.map_id (text.splitOn '\n').dropLast]
    apply List.map_congr_left
    intro line hline
    exact stripCr_eq fun hr => h (mem_of_mem_splitOn (List.dropLast_subset _ hline) hr)
  have hlast : ((text.splitOn '\n').getLast?.toList.filter fun line => line ≠ []).filterMap
      (dataLine id) = [(text.splitOn '\n').getLast hne].filterMap (dataLine id) := by
    rw [List.getLast?_eq_getLast_of_ne_nil hne, Option.toList_some]
    by_cases hempty : (text.splitOn '\n').getLast hne = []
    · rw [hempty]
      rfl
    · rw [List.filter_cons_of_pos (by simpa using hempty), List.filter_nil]
  rw [lines, hstrip, List.filterMap_append, hlast, ← List.filterMap_append,
    List.dropLast_append_getLast hne]

/-- Where no event is complete, only the first line and the last can be blank. -/
theorem ne_nil_of_splitEvent_eq_none {text : List Char} (h : splitEvent text = none) :
    ∀ line ∈ (text.splitOn '\n').tail.dropLast, line ≠ [] := by
  induction text with
  | nil => exact List.forall_mem_nil _
  | cons c text ih =>
      rw [splitEvent] at h
      split at h
      · cases h
      next hnot =>
        have hrest := ih (Option.map_eq_none_iff.mp h)
        by_cases hc : c = '\n'
        · have hsplit : (c :: text).splitOn '\n' = [] :: text.splitOn '\n' := by
            rw [List.splitOn_cons_eq_if_modifyHead, if_pos (by simpa using hc)]
          rw [hsplit, List.tail_cons]
          cases text with
          | nil => exact List.forall_mem_nil _
          | cons d text =>
              have hd : d ≠ '\n' := by
                rintro rfl
                exact hnot ⟨hc, rfl⟩
              obtain ⟨first, later, hlater⟩ :=
                List.exists_cons_of_ne_nil (List.splitOn_ne_nil '\n' text)
              rw [splitOn_cons_of_ne hd, hlater, List.modifyHead_cons] at hrest ⊢
              cases later with
              | nil => exact List.forall_mem_nil _
              | cons second later =>
                  rw [List.dropLast_cons_cons]
                  exact List.forall_mem_cons.mpr ⟨List.cons_ne_nil _ _, hrest⟩
        · obtain ⟨first, later, hlater⟩ :=
            List.exists_cons_of_ne_nil (List.splitOn_ne_nil '\n' text)
          rw [splitOn_cons_of_ne hc, hlater, List.modifyHead_cons, List.tail_cons]
          rwa [hlater, List.tail_cons] at hrest

variable (parse : List Char → Option Value)

theorem splitOnP_of_ne_nil {block : List (List Char)} (h : ∀ line ∈ block, line ≠ []) :
    block.splitOnP List.isEmpty = [block] := by
  apply List.splitOnP_eq_singleton
  intro line hline
  exact List.isEmpty_eq_false_iff.mpr (h line hline)

theorem filterMap_blockMessage_cons (first : List Char) {block : List (List Char)}
    (h : ∀ line ∈ block, line ≠ []) :
    ((first :: block).splitOnP List.isEmpty).filterMap (blockMessage parse) =
      (blockMessage parse (first :: block)).toList := by
  by_cases hfirst : first = []
  · subst hfirst
    have hsplit : ([] :: block).splitOnP List.isEmpty = [[], block] := by
      rw [List.splitOnP_cons_eq_if_modifyHead, if_pos List.isEmpty_nil, splitOnP_of_ne_nil h]
    have hblank : blockMessage parse ([] :: block) = blockMessage parse block := rfl
    rw [hsplit, hblank, List.filterMap_cons_none rfl, List.filterMap_cons, List.filterMap_nil]
    cases blockMessage parse block with
    | none => rfl
    | some message => rfl
  · rw [splitOnP_of_ne_nil (List.forall_mem_cons.mpr ⟨hfirst, h⟩), List.filterMap_cons,
      List.filterMap_nil]
    cases blockMessage parse (first :: block) with
    | none => rfl
    | some message => rfl

theorem blockMessage_append_blank (block : List (List Char)) :
    blockMessage parse (block ++ [[]]) = blockMessage parse block := by
  rw [blockMessage, blockMessage, joinData_congr]
  rw [List.filterMap_append]
  exact List.append_nil _

theorem filterMap_blockMessage {block : List (List Char)}
    (h : ∀ line ∈ block.tail.dropLast, line ≠ []) :
    (block.splitOnP List.isEmpty).filterMap (blockMessage parse) =
      (blockMessage parse block).toList := by
  cases block with
  | nil => rfl
  | cons first block =>
      rcases List.eq_nil_or_concat block with rfl | ⟨middle, last, rfl⟩
      · exact filterMap_blockMessage_cons parse first (List.forall_mem_nil _)
      · rw [List.concat_eq_append, List.tail_cons, List.dropLast_concat] at h
        rw [List.concat_eq_append]
        by_cases hlast : last = []
        · subst hlast
          rw [← List.cons_append, List.splitOnP_append_cons _ _ rfl, List.filterMap_append,
            filterMap_blockMessage_cons parse first h, blockMessage_append_blank]
          exact List.append_nil _
        · apply filterMap_blockMessage_cons
          rw [List.forall_mem_append]
          exact ⟨h, List.forall_mem_singleton.mpr hlast⟩

theorem eventBlocks_append (body rest : List Char) :
    eventBlocks (body ++ ['\n', '\n'] ++ rest) = eventBlocks body ++ eventBlocks rest := by
  have hsplit : (body ++ ['\n', '\n'] ++ rest).splitOn '\n' =
      body.splitOn '\n' ++ [] :: rest.splitOn '\n' := by
    rw [List.append_assoc]
    exact (splitOn_append_newline body ('\n' :: rest)).trans
      (congrArg _ (splitOn_append_newline [] rest))
  rw [eventBlocks, hsplit, List.splitOnP_append_cons _ _ rfl, eventBlocks, eventBlocks]

theorem deliverEvent_eq {event : List Char} (h : '\r' ∉ event) :
    deliverEvent parse event = blockMessage parse (event.splitOn '\n') := by
  rw [deliverEvent, blockMessage, joinData_congr (filterMap_lines h)]

theorem splitEvent_body {body rest : List Char}
    (h : splitEvent (body ++ ['\n', '\n'] ++ rest) = some (body ++ ['\n', '\n'], rest)) :
    splitEvent body = none := by
  cases hearlier : splitEvent body with
  | none => rfl
  | some found =>
      obtain ⟨_, _, hfound⟩ := splitEvent_eq_some hearlier
      have hmore := splitEvent_append (['\n', '\n'] ++ rest) hearlier
      rw [← List.append_assoc, h] at hmore
      have hevent : body ++ ['\n', '\n'] = found.1 := congrArg Prod.fst (Option.some.inj hmore)
      have hlength := congrArg List.length hfound
      rw [List.length_append, ← hevent, List.length_append, List.length_cons] at hlength
      omega

/-- A text without carriage returns has one message for each of its events that has data
that can be read, in order. -/
theorem deliverText_eq {text : List Char} (h : '\r' ∉ text) :
    deliverText parse text = (eventBlocks text).filterMap (blockMessage parse) := by
  induction text using drainEvents_induction with
  | last text hnone =>
      rw [deliverText, drainEvents_of_none hnone, eventBlocks,
        filterMap_blockMessage parse (ne_nil_of_splitEvent_eq_none hnone), deliverEvent_eq parse h]
      rfl
  | event text event rest hsome ih =>
      obtain ⟨body, rfl, htext⟩ := splitEvent_eq_some hsome
      rw [htext, List.mem_append, not_or] at h
      rw [htext] at hsome
      have hbody := splitEvent_body hsome
      have hevent : deliverEvent parse (body ++ ['\n', '\n']) =
          blockMessage parse (body.splitOn '\n') := by
        have hsplit : (body ++ ['\n', '\n']).splitOn '\n' = body.splitOn '\n' ++ [[]] ++ [[]] := by
          rw [List.append_assoc]
          exact splitOn_append_newline body ['\n']
        rw [deliverEvent_eq parse h.1, hsplit, blockMessage_append_blank,
          blockMessage_append_blank]
      have hrest := ih h.2
      rw [deliverText] at hrest
      rw [htext, deliverText, drainEvents_of_some hsome, eventBlocks_append,
        List.filterMap_append, ← hrest, eventBlocks,
        filterMap_blockMessage parse (ne_nil_of_splitEvent_eq_none hbody), ← hevent]
      rw [List.filterMap_cons, ← List.append_assoc]
      cases deliverEvent parse (body ++ ['\n', '\n']) with
      | none => rfl
      | some message => rfl

theorem readEvents_eq (frames : List (List UInt8)) :
    readEvents parse (frames.map BodyFrame.data) =
      ((eventBlocks ((frames.flatMap lossy).filter fun c => c ≠ '\r')).filterMap
        (blockMessage parse), true) := by
  rw [readEvents_data, deliverText_eq]
  intro hr
  simpa using List.of_mem_filter hr

end EventStream

end Kallichore
