import Mathlib.Data.List.DropRight
import MachineManager.Logs.Stamp

/-!
# Drained records

The drainer appends a record to a segment as one line: the stamp, the uptime, the priority and the
message, with spaces between them. The reader goes through a segment line by line and takes these
parts off again. Nothing in a message is escaped: a record is read as it was drained if and only if
there is no line feed in it (`drained_read_iff`).

Texts are UTF-8, so that the reader loses no bytes. A line is skipped if it is `blank`, which the
standard library decides; it is known that no line with a digit is.
-/

namespace PlatformLog

open List

/-- A record, apart from its emitter, which is not written. -/
structure DrainRecord where
  epochSecs : ℕ
  uptimeSecs : ℕ
  priority : List UInt8
  message : List UInt8

structure LogRecord where
  timestamp : List UInt8
  priority : List UInt8
  message : List UInt8
  source : List UInt8
  uptimeSecs : Option ℕ
deriving DecidableEq

def FILE_DOWNLOAD_CAP : ℕ :=
  32 * 1024 * 1024

def DrainRecord.trimmed (r : DrainRecord) : List UInt8 :=
  r.message.rdropWhile (· = 10)

def formatLine (r : DrainRecord) : List UInt8 :=
  rfc3339Utc r.epochSecs ++ 32 ::
    (padded 0 r.uptimeSecs ++ 32 :: (r.priority ++ 32 :: (r.trimmed ++ [10])))

def splitOnce (sep : UInt8) (s : List UInt8) : Option (List UInt8 × List UInt8) :=
  if sep ∈ s then some (s.takeWhile (· ≠ sep), (s.dropWhile (· ≠ sep)).tail) else none

def parseU64 (s : List UInt8) : Option ℕ := do
  let n ← if s.head? = some 43 then parseDigits s.tail else parseDigits s
  if n.toNat < 2 ^ 64 then some n.toNat else none

def splitLeadingUptime (s : List UInt8) : Option ℕ × List UInt8 :=
  match splitOnce 32 s with
  | some (tok, rest) =>
    match parseU64 tok with
    | some n => (some n, rest)
    | none => (none, s)
  | none => (none, s)

def priorityNames : List String :=
  ["emergency", "alert", "critical", "error", "warning", "notice", "info", "debug"]

def isPriorityName (t : List UInt8) : Bool :=
  priorityNames.any (·.toUTF8.toList = t)

def splitLeadingPriority (s : List UInt8) : Option (List UInt8) × List UInt8 :=
  match splitOnce 32 s with
  | some (tok, rest) => if isPriorityName tok then (some tok, rest) else (none, s)
  | none => (none, s)

def segRecord (line stem : List UInt8) : LogRecord :=
  let (stamp, rest) := splitLeadingStamp line
  let (uptimeSecs, rest) := splitLeadingUptime rest
  let (priority, message) := splitLeadingPriority rest
  { timestamp := stamp.getD (rfc3339Utc 0)
    priority := priority.getD "info".toUTF8.toList
    message
    source := stem
    uptimeSecs }

/-- The complete lines of what was read, the first of which has begun with `line`. -/
def lines (line : List UInt8) : List UInt8 → List (List UInt8)
  | [] => []
  | c :: rest => if c = 10 then line :: lines [] rest else lines (line ++ [c]) rest

variable (blank : List UInt8 → Bool) (stem : List UInt8)

/-- What is read of a segment from a cursor on, without a filter. -/
def readSegment (page cursor : ℕ) (segment : List UInt8) : List LogRecord :=
  let buf := (segment.drop cursor).take FILE_DOWNLOAD_CAP
  (((lines [] buf).filter fun line => !blank line).map (segRecord · stem)).take (max page 1)

/-- What the fields of a record can hold: a second before the year 10000, 64 bits, and a known
priority. -/
structure DrainRecord.Proper (r : DrainRecord) : Prop where
  epoch : r.epochSecs < 253402300800
  uptime : r.uptimeSecs < 2 ^ 64
  priority : isPriorityName r.priority = true

def DrainRecord.read (r : DrainRecord) (message : List UInt8) : LogRecord where
  timestamp := rfc3339Utc r.epochSecs
  priority := r.priority
  message
  source := stem
  uptimeSecs := some r.uptimeSecs

def DrainRecord.head (r : DrainRecord) : List UInt8 :=
  rfc3339Utc r.epochSecs ++ 32 :: (padded 0 r.uptimeSecs ++ 32 :: (r.priority ++ [32]))

variable {blank} {a b : List UInt8} {r : DrainRecord}

theorem splitOnce_append {sep : UInt8} (first : sep ∉ a) :
  splitOnce sep (a ++ sep :: b) = some (a, b)
  := by
  have before : ∀ c ∈ a, decide (c ≠ sep) = true := by
    intro c mem
    exact decide_eq_true fun same => first (same ▸ mem)
  rw [splitOnce, if_pos (by simp), takeWhile_append_of_pos before, dropWhile_append_of_pos before]
  simp

theorem padded_zero (n : ℕ) :
  ∃ w, 0 < w ∧ n < 10 ^ w ∧ padded 0 n = decimals w n
  := by
  have pos : 0 < (Nat.toDigits 10 n).length := Nat.length_toDigits_pos
  have fits := (Nat.length_toDigits_le_iff (by decide) pos).mp (Nat.le_refl _)
  have sign : ¬ (n : ℤ) < 0 := by omega
  exact ⟨_, pos, fits, by simp [padded, sign]⟩

theorem parseU64_decimals {w n : ℕ} (pos : 0 < w) (fits : n < 10 ^ w) (small : n < 2 ^ 64) :
  parseU64 (decimals w n) = some n
  := by
  rw [parseU64, if_neg (head?_decimals_ne rfl), parseDigits_decimals pos fits]
  simp only [Option.bind_eq_bind, Option.bind_some, Int.toNat_natCast, if_pos small]

theorem priority_plain (known : isPriorityName a = true) :
  32 ∉ a ∧ 10 ∉ a
  := by
  obtain ⟨name, listed, same⟩ := any_eq_true.mp known
  have all : ∀ name ∈ priorityNames, 32 ∉ name.toUTF8.toList ∧
    10 ∉ name.toUTF8.toList := by decide +kernel
  rw [← of_decide_eq_true same]
  exact all name listed

/-- The parts of a line are told apart, whatever the message is. -/
theorem segRecord_head (proper : r.Proper) (message : List UInt8) :
  segRecord (r.head ++ message) stem = r.read stem message
  := by
  obtain ⟨f, stamp, -⟩ := rfc3339Utc_eq proper.epoch
  obtain ⟨w, pos, fits, uptime⟩ := padded_zero r.uptimeSecs
  have line : r.head ++ message =
      f.text ++ 32 :: (decimals w r.uptimeSecs ++ 32 :: (r.priority ++ 32 :: message)) := by
    simp [DrainRecord.head, stamp, uptime]
  have second (rest : List UInt8) :
      splitLeadingUptime (decimals w r.uptimeSecs ++ 32 :: rest) = (some r.uptimeSecs, rest) := by
    rw [splitLeadingUptime, splitOnce_append (not_mem_decimals rfl)]
    simp only [parseU64_decimals pos fits proper.uptime]
  have third : splitLeadingPriority (r.priority ++ 32 :: message) = (some r.priority, message) := by
    rw [splitLeadingPriority, splitOnce_append (priority_plain proper.priority).1]
    exact if_pos proper.priority
  rw [line, DrainRecord.read, stamp]
  unfold segRecord
  rw [f.splitLeadingStamp_text]
  simp only [second, third]
  rfl

/-- What is before a message has a digit and no line feed. -/
theorem DrainRecord.head_plain (r : DrainRecord) (proper : r.Proper) :
  10 ∉ r.head ∧ ∃ c ∈ r.head, isAsciiDigit c = true
  := by
  obtain ⟨f, stamp, -⟩ := rfc3339Utc_eq proper.epoch
  obtain ⟨w, -, -, uptime⟩ := padded_zero r.uptimeSecs
  have plain {w n : ℕ} : (10 : UInt8) ∉ decimals w n := not_mem_decimals rfl
  rw [head, stamp, uptime, Fields.text]
  refine ⟨by simp [plain, (priority_plain proper.priority).2], digit f.y, ?_, isAsciiDigit_digit⟩
  simp [decimals]

theorem lines_append (whole : 10 ∉ a) (line : List UInt8) :
  lines line (a ++ b) = lines (line ++ a) b
  := by
  induction a generalizing line with
  | nil => simp
  | cons c a ih =>
    rw [mem_cons, not_or] at whole
    rw [cons_append, lines, if_neg (Ne.symm whole.1), ih whole.2, List.append_assoc]
    rfl

/-- The line up to the first line feed is read, if it is not too long. -/
theorem readSegment_cases (visible : ∀ line, (∃ c ∈ line, isAsciiDigit c = true) →
    blank line = false)
    (digit : ∃ c ∈ a, isAsciiDigit c = true) (whole : 10 ∉ a) (before b : List UInt8) (page : ℕ) :
  a.length < FILE_DOWNLOAD_CAP ∧
      (∃ more, readSegment blank stem page before.length (before ++ (a ++ 10 :: b)) =
        segRecord a stem :: more ∧ (b = [] → more = [])) ∨
    FILE_DOWNLOAD_CAP ≤ a.length ∧ readSegment blank stem page before.length
      (before ++ (a ++ 10 :: b)) = []
  := by
  simp only [readSegment, drop_left, take_append]
  by_cases reads : a.length < FILE_DOWNLOAD_CAP
  · obtain ⟨left, more⟩ : ∃ left, FILE_DOWNLOAD_CAP - a.length = left + 1 :=
      ⟨_, (Nat.sub_add_cancel (by omega)).symm⟩
    obtain ⟨last, page⟩ : ∃ last, max page 1 = last + 1 := ⟨_, (Nat.sub_add_cancel (by omega)).symm⟩
    let others := ((lines [] (b.take left)).filter fun line => !blank line).map (segRecord · stem)
    refine .inl ⟨reads, others.take last, ?_, ?_⟩
    · rw [more, page, take_of_length_le (Nat.le_of_lt reads), lines_append whole, take_succ_cons,
        lines, if_pos rfl]
      simp [visible a digit, others]
    · rintro rfl
      simp [others, lines]
  · have stops : FILE_DOWNLOAD_CAP - a.length = 0 := by omega
    right
    rw [stops, take_zero, lines_append fun mem => whole (mem_of_mem_take mem)]
    exact ⟨by omega, by simp [lines]⟩

/-- A record is read as it was drained, with its message up to line feeds at the end, if and only if
there is no line feed within the message and the line is not longer than what is read. -/
theorem drained_read_iff (visible : ∀ line, (∃ c ∈ line, isAsciiDigit c = true) →
    blank line = false)
    (proper : r.Proper) (before : List UInt8) (page : ℕ) :
  readSegment blank stem page before.length (before ++ formatLine r) = [r.read stem r.trimmed] ↔
    10 ∉ r.trimmed ∧ (formatLine r).length ≤ FILE_DOWNLOAD_CAP
  := by
  obtain ⟨m, post, split, first⟩ := eq_append_cons_of_mem (show 10 ∈ r.trimmed ++ [10] by simp)
  have line : formatLine r = r.head ++ m ++ 10 :: post := by
    rw [List.append_assoc, ← split]
    simp [formatLine, DrainRecord.head]
  have only (whole : 10 ∉ r.trimmed) : m = r.trimmed ∧ post = [] := by
    have same := (splitOnce_append (b := []) whole).symm.trans (split ▸ splitOnce_append first)
    cases same
    exact ⟨rfl, rfl⟩
  obtain ⟨plain, digit⟩ := r.head_plain proper
  have digit : ∃ c ∈ r.head ++ m, isAsciiDigit c = true :=
    digit.imp fun _ => .imp_left (mem_append_left m)
  rw [line]
  obtain ⟨reads, more, read, none⟩ | ⟨long, read⟩ :=
    readSegment_cases stem visible digit (not_mem_append plain first) before post page
  · rw [read, segRecord_head stem proper]
    constructor
    · intro same
      have message : m = r.trimmed := congrArg LogRecord.message (cons.inj same).1
      obtain ⟨-, rfl⟩ := only (message ▸ first)
      refine ⟨message ▸ first, ?_⟩
      rw [length_append]
      exact reads
    · rintro ⟨whole, -⟩
      obtain ⟨rfl, rfl⟩ := only whole
      rw [none rfl]
  · rw [read]
    constructor
    · nofun
    · rintro ⟨whole, short⟩
      obtain ⟨rfl, rfl⟩ := only whole
      rw [length_append] at short
      exact absurd short (Nat.not_le.mpr (Nat.lt_succ_of_le long))

namespace Bench

def drained (message : String) : DrainRecord where
  epochSecs := 1784562613
  uptimeSecs := 42
  priority := "error".toUTF8.toList
  message := message.toUTF8.toList

/-- There is nothing but spaces and control characters. -/
def noText (line : List UInt8) : Bool :=
  line.all (· ≤ 32)

end Bench

open Bench in
/-- A message of two lines is read as two records, the second one at the time zero. -/
theorem two_lines_read_twice :
  (drained "link\ndown\n").Proper ∧
    (readSegment noText [] 200 0 (formatLine (drained "link\ndown\n"))).map
      (fun r => (r.timestamp, r.message)) =
      [(rfc3339Utc 1784562613, "link".toUTF8.toList), (rfc3339Utc 0, "down".toUTF8.toList)]
  := ⟨⟨by decide, by decide, by decide +kernel⟩, by decide +kernel⟩

open Bench in
/-- A message of one line is read as it is. -/
theorem one_line_read :
  readSegment noText [] 200 0 (formatLine (drained "link down\n")) =
    [(drained "link down\n").read [] "link down".toUTF8.toList]
  := by
  have visible (line : List UInt8) : (∃ c ∈ line, isAsciiDigit c = true) → noText line = false := by
    rintro ⟨c, mem, digit⟩
    simp only [isAsciiDigit, Bool.and_eq_true, decide_eq_true_eq] at digit
    refine all_eq_false.mpr ⟨c, mem, fun low => ?_⟩
    exact absurd (UInt8.le_trans digit.1 (of_decide_eq_true low)) (by decide)
  have proper : (drained "link down\n").Proper := ⟨by decide, by decide, by decide +kernel⟩
  have spec := drained_read_iff [] visible proper [] 200
  have trimmed : (drained "link down\n").trimmed = "link down".toUTF8.toList := by decide +kernel
  rw [trimmed] at spec
  exact spec.mpr ⟨by decide +kernel, by decide +kernel⟩

end PlatformLog
