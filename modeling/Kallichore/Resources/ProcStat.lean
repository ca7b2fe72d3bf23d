import Kallichore.Lib.Saturating
import Kallichore.Lib.Utf8
import Kallichore.Lib.Words

/-!
# Sampling a process on Linux

The line that the kernel gives for a process has the name of the command in parentheses, and
the name is whatever the process says it is: it may have spaces, newlines and parentheses of
its own. The fields that come after it have none, so the name ends at the last closing
parenthesis. The fields are counted from there.
-/

namespace Kallichore

namespace Resources

open Utf8 Words

/-- A point-in-time sample of one process's resource usage. -/
structure ProcessSample where
  pid : UInt32
  /-- CPU time consumed over the process's lifetime, in nanoseconds. -/
  cpuTimeNs : UInt64
  memoryBytes : UInt64
  threadCount : UInt64
  deriving DecidableEq, Repr

/-- The fields of `/proc/[pid]/stat` that are used. -/
structure ProcStat where
  /-- `utime` + `stime`, in clock ticks. -/
  cpuTicks : UInt64
  numThreads : UInt64
  rssPages : UInt64
  deriving DecidableEq, Repr

def parseU64 (text : List Char) : Option UInt64 := (parseUnsigned 64 text).map UInt64.ofNat

def parseI64 (text : List Char) : Option ℤ := parseSigned 64 text

namespace ProcStat

/-- What is read from the fields after the command. -/
def ofFields (fields : List (List Char)) : Option ProcStat :=
  if fields.length < 22 then none
  else do
    let utime ← parseU64 (← fields[11]?)
    let stime ← parseU64 (← fields[12]?)
    let numThreads ← parseI64 (← fields[17]?)
    let rssPages ← parseU64 (← fields[21]?)
    some
      { cpuTicks := Saturating.add utime stime
        numThreads := UInt64.ofNat (max numThreads 1).toNat
        rssPages }

/-- Parse the contents of a `/proc/[pid]/stat` file. -/
def parse (content : List Char) : Option ProcStat := do
  let close ← rfind ')' content
  let afterComm ← getFrom content (close + 2)
  ofFields (splitWhitespace afterComm)

def render (pid : ℕ) (comm : List Char) (fields : List (List Char)) : List Char :=
  pid.repr.toList ++ " (".toList ++ comm ++ ") ".toList ++ [' '].intercalate fields

/-! ## The end of the command -/

theorem parse_eq_none_of_notMem {content : List Char} (h : ')' ∉ content) :
    parse content = none := by
  rw [parse, rfind_eq_none h]
  rfl

/-- The fields are read from the second byte after the last closing parenthesis. -/
theorem parse_append {after : List Char} (before : List Char) (h : ')' ∉ after) :
    parse (before ++ ')' :: after) =
      (getFrom after 1).bind fun afterComm => ofFields (splitWhitespace afterComm) := by
  have hget : getFrom (before ++ ')' :: after) (utf8Len before + 2) = getFrom after 1 := by
    rw [getFrom_append]
    exact getFrom_append [')'] after 1
  rw [parse, rfind_append_cons before h]
  change (getFrom (before ++ ')' :: after) (utf8Len before + 2)).bind _ = _
  rw [hget]

theorem parse_eq_none_of_length_lt {after : List Char} (before : List Char) (h : ')' ∉ after)
    (hlt : (splitWhitespace after).length < 22) : parse (before ++ ')' :: after) = none := by
  rw [parse_append before h]
  cases hget : getFrom after 1 with
  | none => rfl
  | some afterComm =>
      obtain ⟨c, -, rfl⟩ := getFrom_one_eq_some_iff.mp hget
      have hle := length_splitWhitespace_le_cons c afterComm
      rw [Option.bind_some, ofFields, if_pos (Nat.lt_of_le_of_lt hle hlt)]

/-! ## The fields -/

/-- Fields of a line, and the values of those that are read. -/
structure Shows (fields : List (List Char)) (utime stime : UInt64) (numThreads : Int64)
    (rss : UInt64) : Prop where
  /-- What stands between the spaces of the line. -/
  words : ∀ field ∈ fields, IsWord field ∧ ')' ∉ field
  enough : 22 ≤ fields.length
  utimeAt : ∃ field, fields[11]? = some field ∧ IsNumeral field utime.toNat
  stimeAt : ∃ field, fields[12]? = some field ∧ IsNumeral field stime.toNat
  numThreadsAt : ∃ field, fields[17]? = some field ∧ IsSignedNumeral field numThreads.toInt
  rssAt : ∃ field, fields[21]? = some field ∧ IsNumeral field rss.toNat

theorem parseU64_of_isNumeral {text : List Char} {n : UInt64} (h : IsNumeral text n.toNat) :
    parseU64 text = some n := by
  rw [parseU64, h.parseUnsigned_eq n.toNat_lt, Option.map_some, UInt64.ofNat_toNat]

theorem parseI64_of_isSignedNumeral {text : List Char} {n : Int64}
    (h : IsSignedNumeral text n.toInt) : parseI64 text = some n.toInt :=
  h.parseSigned_eq n.le_toInt n.toInt_lt

section Line

variable {fields : List (List Char)} {utime stime rss : UInt64} {numThreads : Int64}

theorem Shows.ofFields_eq (h : Shows fields utime stime numThreads rss) :
    ofFields fields = some
      { cpuTicks := Saturating.add utime stime
        numThreads := UInt64.ofNat (max numThreads.toInt 1).toNat
        rssPages := rss } := by
  obtain ⟨utimeField, hutimeField, hutime⟩ := h.utimeAt
  obtain ⟨stimeField, hstimeField, hstime⟩ := h.stimeAt
  obtain ⟨threadsField, hthreadsField, hthreads⟩ := h.numThreadsAt
  obtain ⟨rssField, hrssField, hrss⟩ := h.rssAt
  rw [ofFields, if_neg (Nat.not_lt.mpr h.enough)]
  simp [hutimeField, hstimeField, hthreadsField, hrssField, parseU64_of_isNumeral hutime,
    parseU64_of_isNumeral hstime, parseU64_of_isNumeral hrss,
    parseI64_of_isSignedNumeral hthreads]

theorem Shows.parse_render (h : Shows fields utime stime numThreads rss) (pid : ℕ)
    (comm : List Char) : parse (render pid comm fields) = ofFields fields := by
  have hafter : ')' ∉ ' ' :: [' '].intercalate fields := by
    rw [List.mem_cons, not_or]
    refine ⟨by decide, fun hmem => ?_⟩
    rcases mem_intercalate hmem with hspace | ⟨field, hfield, hin⟩
    · exact absurd hspace (by decide)
    · exact (h.words field hfield).2 hin
  have hline : render pid comm fields =
      (pid.repr.toList ++ " (".toList ++ comm) ++ ')' :: ' ' :: [' '].intercalate fields := by
    simp [render]
  have hget : getFrom (' ' :: [' '].intercalate fields) 1 = some ([' '].intercalate fields) :=
    getFrom_one_eq_some_iff.mpr ⟨' ', rfl, rfl⟩
  rw [hline, parse_append _ hafter, hget, Option.bind_some,
    splitWhitespace_intercalate fun field hfield => (h.words field hfield).1]

theorem toNat_numThreads (n : Int64) : ((UInt64.ofNat (max n.toInt 1).toNat).toNat : ℤ) =
    max n.toInt 1 := by
  have hlt := n.toInt_lt
  have hsize : UInt64.size = 18446744073709551616 := rfl
  rw [UInt64.toNat_ofNat_of_lt' (by omega)]
  omega

end Line

/-- The values that a line shows are read from it, whatever the command of the process is,
and nothing is read from a line that has fewer fields after its last closing parenthesis than
are needed, or no parenthesis. -/
theorem parse_inverts_render :
    (∀ (pid : ℕ) (comm : List Char) (fields : List (List Char)) (utime stime : UInt64)
      (numThreads : Int64) (rss : UInt64), Shows fields utime stime numThreads rss →
      ∃ stat, parse (render pid comm fields) = some stat ∧
        stat.cpuTicks.toNat = min (utime.toNat + stime.toNat) (2 ^ 64 - 1) ∧
        (stat.numThreads.toNat : ℤ) = max numThreads.toInt 1 ∧ stat.rssPages = rss) ∧
    (∀ before after : List Char, ')' ∉ after → (splitWhitespace after).length < 22 →
      parse (before ++ ')' :: after) = none) ∧
    ∀ content : List Char, ')' ∉ content → parse content = none := by
  refine ⟨?_, fun before after => parse_eq_none_of_length_lt before, fun content =>
    parse_eq_none_of_notMem⟩
  intro pid comm fields utime stime numThreads rss h
  refine ⟨_, (h.parse_render pid comm).trans h.ofFields_eq, ?_, ?_, rfl⟩
  · exact Saturating.toNat_add utime stime
  · exact toNat_numThreads numThreads

/-- The fields of a process that has used 42 ticks, and 17 in the system. -/
def exampleFields : List (List Char) :=
  ["S", "1200", "1234", "1234", "34816", "1234", "4194304", "1500", "200", "0", "0", "42", "17",
    "3", "1", "20", "0", "5", "0", "987654", "12345678", "987", "18446744073709551615"].map
    String.toList

theorem shows_exampleFields : Shows exampleFields 42 17 5 987 where
  words := by
    have hall : exampleFields.all (fun field => !field.isEmpty &&
        field.all fun c => !isWhitespace c && c != ')') = true := by decide
    intro field hfield
    have hfield := List.all_eq_true.mp hall field hfield
    simp only [Bool.and_eq_true, Bool.not_eq_true', List.isEmpty_eq_false_iff, List.all_eq_true,
      bne_iff_ne] at hfield
    exact ⟨⟨hfield.1, fun c hc => (hfield.2 c hc).1⟩, fun hmem => (hfield.2 _ hmem).2 rfl⟩
  enough := by decide
  utimeAt := ⟨"42".toList, rfl, isNumeral_repr 42⟩
  stimeAt := ⟨"17".toList, rfl, isNumeral_repr 17⟩
  numThreadsAt := ⟨"5".toList, rfl, Or.inl ⟨5, isNumeral_repr 5, rfl⟩⟩
  rssAt := ⟨"987".toList, rfl, isNumeral_repr 987⟩

theorem parse_inverts_render_parentheses :
    ∃ stat, parse (render 1234 "od d) name".toList exampleFields) = some stat ∧
      stat.cpuTicks.toNat = min ((42 : UInt64).toNat + (17 : UInt64).toNat) (2 ^ 64 - 1) ∧
      (stat.numThreads.toNat : ℤ) = max (5 : Int64).toInt 1 ∧ stat.rssPages = 987 :=
  parse_inverts_render.1 1234 "od d) name".toList exampleFields 42 17 5 987 shows_exampleFields

end ProcStat

end Resources

end Kallichore
