import Kallichore.Handler.Basic
import Kallichore.Session.Collect
import Mathlib.Algebra.Order.Ring.Nat

/-!
# What an agent is shown of an execution

The reply of an execution is gathered into its output, its displays and its error, and the
texts of these are cut to one budget, in a fixed order. The name of the error is the one text
that is shown as it is: it is neither stripped nor cut, and nothing is taken from the budget
for it. So the text of an answer is within the budget if and only if the name has room beside
what is kept of the rest.
-/

namespace Kallichore

namespace Handler

open Utf8

def displayTextTypes : List String := ["text/plain", "text/markdown"]

structure ReplyError where
  name : Option String
  message : Option String
  traceback : Option (List String)

/-- The variables of the loop over a reply's output. An image is its data and its type. -/
structure Gathered where
  stdout : List Char := []
  stderr : List Char := []
  displays : List (List (String × String)) := []
  images : List (String × String) := []
  error : Option ReplyError := none

def isRenderableImage (mime : String) : Bool := mime = "image/png" || mime = "image/jpeg"

/-- Pull any renderable images out of a MIME bundle. -/
def collectImages (data : List (String × String)) : List (String × String) :=
  (data.filter fun entry => isRenderableImage entry.1).map fun entry => (entry.2, entry.1)

def gather (gathered : Gathered) (output : ExecuteOutput) : Gathered :=
  match output.type with
  | .stream =>
      let text := (output.text.getD "").toList
      if output.streamName = some "stderr" then
        { gathered with stderr := gathered.stderr ++ text }
      else { gathered with stdout := gathered.stdout ++ text }
  | .displayData =>
      match output.data with
      | none => gathered
      | some data =>
          let text := data.filter fun entry => displayTextTypes.contains entry.1
          { gathered with
            images := gathered.images ++ collectImages data
            displays :=
              if text.isEmpty then gathered.displays else gathered.displays ++ [text] }
  | .error =>
      { gathered with
        error := some ⟨output.errorName, output.errorMessage, output.errorTraceback⟩ }

/-- What a reply has, its own error where its output has none. -/
def gatherReply (reply : ExecuteReply) : Gathered :=
  let gathered := reply.output.foldl gather {}
  if gathered.error.isNone ∧ reply.errorName.isSome then
    { gathered with
      error := some ⟨reply.errorName, reply.errorMessage, reply.errorTraceback⟩ }
  else gathered

structure RenderedError where
  name : Option String
  message : Option (List Char)
  traceback : Option (List (List Char))

structure RenderedReply where
  status : ExecuteReplyStatus
  executionCount : Int32
  stdout : List Char
  stderr : List Char
  result : Option (List (String × List Char))
  displays : List (List (String × List Char))
  images : ℕ
  error : Option RenderedError
  truncated : Bool

namespace Budget

def takeOption (budget : Budget) (text : Option String) : Option (List Char) × Budget :=
  match text with
  | none => (none, budget)
  | some text =>
      let taken := budget.take text.toList
      (some taken.1, taken.2)

/-- The lines of a traceback, without those that are empty. -/
def takeTraceback (budget : Budget) (lines : Option (List String)) :
    Option (List (List Char)) × Budget :=
  match lines with
  | none => (none, budget)
  | some lines =>
      let taken := budget.takeEach (lines.map String.toList)
      (some (taken.1.filter fun line => line ≠ []), taken.2)

/-- The values of a MIME bundle, under their types. -/
def takeValues (budget : Budget) (bundle : List (String × String)) :
    List (String × List Char) × Budget :=
  let taken := budget.takeEach (bundle.map fun entry => entry.2.toList)
  ((bundle.map Prod.fst).zip taken.1, taken.2)

def takeDisplays (budget : Budget) :
    List (List (String × String)) → List (List (String × List Char)) × Budget
  | [] => ([], budget)
  | bundle :: bundles =>
      let taken := budget.takeValues bundle
      let rest := taken.2.takeDisplays bundles
      (taken.1 :: rest.1, rest.2)

def takeError (budget : Budget) (error : Option ReplyError) : Option RenderedError × Budget :=
  match error with
  | none => (none, budget)
  | some error =>
      let message := budget.takeOption error.message
      let traceback := message.2.takeTraceback error.traceback
      (some { name := error.name, message := message.1, traceback := traceback.1 }, traceback.2)

/-- The values of a result that are not images. -/
def takeResult (budget : Budget) (data : Option (List (String × String))) :
    Option (List (String × List Char)) × Budget :=
  match data with
  | none => (none, budget)
  | some data =>
      let taken := budget.takeValues (data.filter fun entry => !entry.1.startsWith "image/")
      (some taken.1, taken.2)

end Budget

/-- Turn an execute reply into the structured result and the images an agent sees. -/
def renderReply (reply : ExecuteReply) : RenderedReply × List (String × String) :=
  let gathered := gatherReply reply
  let error := (Budget.new maxTextBytes).takeError gathered.error
  let stdout := error.2.take gathered.stdout
  let stderr := stdout.2.take gathered.stderr
  let result := stderr.2.takeResult reply.data
  let images := gathered.images ++ (reply.data.map collectImages).getD []
  let displays := result.2.takeDisplays gathered.displays
  ({ status := reply.status
     executionCount := reply.executionCount
     stdout := stdout.1
     stderr := stderr.1
     result := result.1
     displays := displays.1
     images := images.length
     error := error.1
     truncated := displays.2.truncated }, images)

/-! ## The texts of an answer -/

def RenderedError.texts (error : RenderedError) : List (List Char) :=
  error.message.toList ++ error.traceback.getD []

def RenderedError.nameBytes (error : RenderedError) : ℕ := utf8Len (error.name.getD "").toList

namespace RenderedReply

/-- The texts of an answer, the name of its error excepted. -/
def texts (body : RenderedReply) : List (List Char) :=
  body.error.toList.flatMap RenderedError.texts ++ [body.stdout, body.stderr] ++
    (body.result.getD []).map Prod.snd ++ body.displays.flatten.map Prod.snd

/-- The bytes that the kernel's text has in an answer. -/
def textBytes (body : RenderedReply) : ℕ :=
  (body.error.toList.map RenderedError.nameBytes).sum + utf8Len body.texts.flatten

end RenderedReply

def ReplyError.texts (error : ReplyError) : List (List Char) :=
  (error.message.toList ++ error.traceback.getD []).map String.toList

/-- The texts of a reply, in the order in which the budget is spent on them. -/
def replyTexts (reply : ExecuteReply) : List (List Char) :=
  (gatherReply reply).error.toList.flatMap ReplyError.texts ++
    [(gatherReply reply).stdout, (gatherReply reply).stderr] ++
    ((reply.data.getD []).filter fun entry => !entry.1.startsWith "image/").map
      (fun entry => entry.2.toList) ++
    (gatherReply reply).displays.flatten.map fun entry => entry.2.toList

def errorNameBytes (reply : ExecuteReply) : ℕ :=
  utf8Len (((gatherReply reply).error.bind ReplyError.name).getD "").toList

/-- Taking texts from a budget keeps these, empty ones not counted, and leaves that. -/
structure Takes (budget : Budget) (texts kept : List (List Char)) (after : Budget) : Prop where
  kept : kept.filter (fun text => text ≠ []) =
    (cutTo budget.left (texts.map stripAnsi)).filter fun text => text ≠ []
  after : after = budget.spend (texts.map stripAnsi)

namespace Takes

theorem nil (budget : Budget) : Takes budget [] [] budget where
  kept := rfl
  after := budget.spend_nil.symm

theorem append {budget middle after : Budget} {texts texts' kept kept' : List (List Char)}
    (h : Takes budget texts kept middle) (h' : Takes middle texts' kept' after) :
    Takes budget (texts ++ texts') (kept ++ kept') after where
  kept := by
    rw [List.filter_append, h.kept, h'.kept, h.after, Budget.left_spend, List.map_append,
      cutTo_append, List.filter_append]
  after := by rw [h'.after, h.after, Budget.spend_append, List.map_append]

theorem take (budget : Budget) (text : List Char) :
    Takes budget [text] [(budget.take text).1] (budget.take text).2 := by
  rw [Budget.take_eq]
  exact ⟨rfl, rfl⟩

theorem takeEach (budget : Budget) (texts : List (List Char)) :
    Takes budget texts (budget.takeEach texts).1 (budget.takeEach texts).2 := by
  rw [Budget.takeEach_eq]
  exact ⟨rfl, rfl⟩

theorem takeOption (budget : Budget) (text : Option String) :
    Takes budget (text.toList.map String.toList) (budget.takeOption text).1.toList
      (budget.takeOption text).2 := by
  cases text with
  | none => exact nil budget
  | some text => exact take budget text.toList

theorem takeEach_filter (budget : Budget) (texts : List (List Char)) :
    Takes budget texts ((budget.takeEach texts).1.filter fun text => text ≠ [])
      (budget.takeEach texts).2 := by
  have h := takeEach budget texts
  refine ⟨Eq.trans ?_ h.kept, h.after⟩
  simp only [List.filter_filter, Bool.and_self]

theorem takeTraceback (budget : Budget) (lines : Option (List String)) :
    Takes budget ((lines.getD []).map String.toList) ((budget.takeTraceback lines).1.getD [])
      (budget.takeTraceback lines).2 := by
  cases lines with
  | none => exact nil budget
  | some lines => exact takeEach_filter budget (lines.map String.toList)

theorem takeValues (budget : Budget) (bundle : List (String × String)) :
    Takes budget (bundle.map fun entry => entry.2.toList)
      ((budget.takeValues bundle).1.map Prod.snd) (budget.takeValues bundle).2 := by
  have hvalues : (budget.takeValues bundle).1.map Prod.snd =
      (budget.takeEach (bundle.map fun entry => entry.2.toList)).1 := by
    apply List.map_snd_zip
    apply Nat.le_of_eq
    rw [Budget.takeEach_eq, length_cutTo, List.length_map, List.length_map, List.length_map]
  rw [hvalues]
  exact takeEach budget _

theorem takeDisplays (budget : Budget) (bundles : List (List (String × String))) :
    Takes budget (bundles.flatten.map fun entry => entry.2.toList)
      ((budget.takeDisplays bundles).1.flatten.map Prod.snd) (budget.takeDisplays bundles).2 := by
  induction bundles generalizing budget with
  | nil => exact nil budget
  | cons bundle bundles ih =>
      rw [List.flatten_cons, List.map_append, Budget.takeDisplays, List.flatten_cons,
        List.map_append]
      exact (takeValues budget bundle).append (ih _)

theorem takeError (budget : Budget) (error : Option ReplyError) :
    Takes budget (error.toList.flatMap ReplyError.texts)
      ((budget.takeError error).1.toList.flatMap RenderedError.texts)
      (budget.takeError error).2 := by
  cases error with
  | none => exact nil budget
  | some error =>
      have h := (takeOption budget error.message).append (takeTraceback _ error.traceback)
      rw [← List.map_append] at h
      simpa [ReplyError.texts, RenderedError.texts, Budget.takeError] using h

theorem takeResult (budget : Budget) (data : Option (List (String × String))) :
    Takes budget
      (((data.getD []).filter fun entry => !entry.1.startsWith "image/").map fun entry =>
        entry.2.toList)
      (((budget.takeResult data).1.getD []).map Prod.snd) (budget.takeResult data).2 := by
  cases data with
  | none => exact nil budget
  | some data => exact takeValues budget _

end Takes

/-- All texts of an answer but the name of its error are taken from one budget. -/
theorem takes_renderReply (reply : ExecuteReply) : ∃ after,
    Takes (Budget.new maxTextBytes) (replyTexts reply) (renderReply reply).1.texts after ∧
      after.truncated = (renderReply reply).1.truncated := by
  have herror := Takes.takeError (Budget.new maxTextBytes) (gatherReply reply).error
  have hstreams := herror.append ((Takes.take _ (gatherReply reply).stdout).append
    (Takes.take _ (gatherReply reply).stderr))
  have hresult := hstreams.append (Takes.takeResult _ reply.data)
  have hdisplays := hresult.append (Takes.takeDisplays _ (gatherReply reply).displays)
  exact ⟨_, hdisplays, rfl⟩

/-- What is shown of the texts of a reply is the beginning of them that fits. -/
theorem flatten_texts_renderReply (reply : ExecuteReply) :
    (renderReply reply).1.texts.flatten =
      takeBytes ((replyTexts reply).map stripAnsi).flatten maxTextBytes := by
  obtain ⟨after, htakes, -⟩ := takes_renderReply reply
  have hkept := congrArg List.flatten htakes.kept
  rwa [List.flatten_filter_ne_nil, List.flatten_filter_ne_nil, flatten_cutTo] at hkept

theorem truncated_renderReply_iff (reply : ExecuteReply) :
    (renderReply reply).1.truncated = true ↔
      maxTextBytes < utf8Len ((replyTexts reply).map stripAnsi).flatten := by
  obtain ⟨after, htakes, htruncated⟩ := takes_renderReply reply
  rw [← htruncated, htakes.after, Budget.truncated_spend_iff]
  exact or_iff_right Bool.false_ne_true

theorem textBytes_renderReply (reply : ExecuteReply) :
    (renderReply reply).1.textBytes = errorNameBytes reply +
      utf8Len (takeBytes ((replyTexts reply).map stripAnsi).flatten maxTextBytes) := by
  have hname : ((renderReply reply).1.error.toList.map RenderedError.nameBytes).sum =
      errorNameBytes reply := by
    rw [errorNameBytes, renderReply]
    cases (gatherReply reply).error with
    | none => rfl
    | some error => rfl
  rw [RenderedReply.textBytes, hname, flatten_texts_renderReply]

structure FitsBudget (reply : ExecuteReply) : Prop where
  /-- The kernel's text is within the budget. -/
  bytes : (renderReply reply).1.textBytes ≤ maxTextBytes
  /-- A text is only ever cut between characters. -/
  boundary : ∀ (text : List Char) (left : ℕ),
    isCharBoundary (stripAnsi text) (cutEnd (stripAnsi text) left) = true
  /-- The texts are beginnings of the stripped originals, those that are empty left out, and
  the answer tells whether one of them is shorter. -/
  texts : ∃ kept : List (List Char),
    List.Forall₂ (· <+: ·) kept ((replyTexts reply).map stripAnsi) ∧
    (renderReply reply).1.texts.filter (fun text => text ≠ []) =
      kept.filter (fun text => text ≠ []) ∧
    ((renderReply reply).1.truncated = true ↔
      ∃ pair ∈ kept.zip ((replyTexts reply).map stripAnsi), utf8Len pair.1 < utf8Len pair.2)

/-- An answer is within its budget if and only if the name of the error has room beside the
beginning of the other texts that fits. -/
theorem fitsBudget_iff (reply : ExecuteReply) :
    FitsBudget reply ↔
      errorNameBytes reply +
        utf8Len (takeBytes ((replyTexts reply).map stripAnsi).flatten maxTextBytes) ≤
          maxTextBytes := by
  rw [← textBytes_renderReply]
  refine ⟨fun h => h.bytes, fun hbytes => ⟨hbytes, fun _ _ => isCharBoundary_cutEnd _ _, ?_⟩⟩
  obtain ⟨after, htakes, -⟩ := takes_renderReply reply
  refine ⟨cutTo maxTextBytes ((replyTexts reply).map stripAnsi), forall₂_cutTo _ _,
    htakes.kept, ?_⟩
  rw [truncated_renderReply_iff, exists_mem_zip_cutTo_iff]

/-- A failed execution whose error has a name longer than the budget. -/
def longNameReply : ExecuteReply where
  status := .error
  executionCount := 1
  output := []
  data := none
  errorName := some (String.ofList (List.replicate 32769 'x'))
  errorMessage := none
  errorTraceback := none

theorem not_fitsBudget_longNameReply : ¬ FitsBudget longNameReply := by
  intro h
  have hbytes := h.bytes
  have hname : errorNameBytes longNameReply = utf8Len (List.replicate 32769 'x') :=
    congrArg utf8Len String.toList_ofList
  have hsize : 'x'.utf8Size = 1 := by decide
  rw [textBytes_renderReply, hname, utf8Len_replicate, hsize, maxTextBytes] at hbytes
  omega

end Handler

end Kallichore
