import Mathlib.Algebra.Ring.Nat
import Mathlib.Data.Int.Order.Basic
import Mathlib.Data.List.Nodup
import MachineManager.Lib.Reachable

/-!
# Time commands of a guest

A guest asks for a correction of the time with a command on the adjust channel, and polls the
channel until the host has answered. The host reads the channel at each of its ticks, processes a
command that it has not seen, and writes its answer; the registers go to a channel of their own. A
channel holds what was written last, by either side.

The tick writes the answer whether or not there was a new command, over what was written to the
channel since the tick has read it. Unless a command is lost with that, every command is taken once,
also when the device is dropped and created again.
-/

open List Option

namespace Vtime

inductive SyncSource
  | none | ntp | sntp | gptp | roughtime | gps | cellular | canTime | rtc
deriving DecidableEq

inductive SyncQuality
  | unknown | coarse | medium | fine
deriving DecidableEq

def VTIME_FLAG_SYNC_VALID : UInt32 := 1
def VTIME_CMD_ADJUST : UInt8 := 0x01
def VTIME_STATUS_PENDING : UInt32 := 0x00
def VTIME_STATUS_APPLIED : UInt32 := 0x01
def VTIME_STATUS_REJECTED : UInt32 := 0x02
def VTIME_STATUS_UNAUTHORIZED : UInt32 := 0x03
def VTIME_STATUS_RATE_LIMITED : UInt32 := 0x04

/-- A command of the guest, or the answer of the host. -/
structure VtimeCmd where
  seq : UInt32
  op : UInt8
  correctionNs : Int64
  syncSource : SyncSource
  syncQuality : SyncQuality
  status : UInt32
  guestId : UInt32
deriving DecidableEq

structure VtimeRegs where
  monoNs : UInt64
  wallOffsetNs : Int64
  lastSyncMonoNs : UInt64
  syncSource : SyncSource
  syncQuality : SyncQuality
  minWallNs : UInt64
  flags : UInt32
  updateSeq : UInt32

/-! ### The writer -/

def TIME_DEFAULT_SYNC_GUEST_ID : UInt32 := 1

/-- In nanoseconds. -/
def TIME_DEFAULT_MIN_ADJUST_INTERVAL : ℕ := 1000000000

def TIME_DEFAULT_MAX_CORRECTION_NS : Int64 := 3600000000000

def EPOCH_2024_NS : Int64 := 1704067200000000000

structure WriterState where
  updateSeq : UInt32 := 0
  wallCorrectionNs : Int64 := 0
  lastCmdSeq : UInt32 := 0
  lastCmdStatus : UInt32 := VTIME_STATUS_PENDING
  syncSource : SyncSource := .none
  syncQuality : SyncQuality := .unknown
  lastSyncMonoNs : UInt64 := 0
  flags : UInt32 := 0
  lastAdjust : Option ℕ := none

/-- What a tick reads of the clocks, first when it processes a command, and of the floor of safe
time. -/
structure Reading where
  syncMonoNs : UInt64 := 0
  now : ℕ := 0
  monoNs : UInt64 := 0
  wallOffsetNs : Int64 := 0
  floorSecs : Option UInt64 := none

def saturatingAdd (a b : Int64) : Int64 :=
  .ofInt (max Int64.minValue.toInt (min Int64.maxValue.toInt (a.toInt + b.toInt)))

def saturatingMul (a b : UInt64) : UInt64 :=
  .ofNat (min (a.toNat * b.toNat) (2 ^ 64 - 1))

namespace WriterState

variable (st : WriterState) (r : Reading)

/-- The sequence number is claimed in any case, so that the command is not processed again. -/
def processAdjust (cmd : VtimeCmd) : WriterState :=
  let st := { st with lastCmdSeq := cmd.seq }
  if cmd.op ≠ VTIME_CMD_ADJUST then { st with lastCmdStatus := VTIME_STATUS_REJECTED }
  else if TIME_DEFAULT_SYNC_GUEST_ID ≠ 0 ∧ cmd.guestId ≠ TIME_DEFAULT_SYNC_GUEST_ID then
    { st with lastCmdStatus := VTIME_STATUS_UNAUTHORIZED }
  else if st.lastAdjust.any (r.now - · < TIME_DEFAULT_MIN_ADJUST_INTERVAL) then
    { st with lastCmdStatus := VTIME_STATUS_RATE_LIMITED }
  else if cmd.correctionNs.abs > TIME_DEFAULT_MAX_CORRECTION_NS then
    { st with lastCmdStatus := VTIME_STATUS_REJECTED }
  else
    { st with
      wallCorrectionNs := saturatingAdd st.wallCorrectionNs cmd.correctionNs
      syncSource := cmd.syncSource
      syncQuality := cmd.syncQuality
      lastSyncMonoNs := r.syncMonoNs
      flags := st.flags ||| VTIME_FLAG_SYNC_VALID
      lastAdjust := some r.now
      lastCmdStatus := VTIME_STATUS_APPLIED }

def wallOffset : Int64 :=
  saturatingAdd r.wallOffsetNs st.wallCorrectionNs

/-- The host takes its own clock for valid once it is past an epoch. -/
def selfElect : WriterState :=
  if st.flags &&& VTIME_FLAG_SYNC_VALID = 0 ∧
      saturatingAdd r.monoNs.toInt64 (st.wallOffset r) > EPOCH_2024_NS then
    { st with
      flags := st.flags ||| VTIME_FLAG_SYNC_VALID
      syncSource := .sntp
      syncQuality := .coarse
      lastSyncMonoNs := r.monoNs }
  else st

def regs : VtimeRegs where
  monoNs := r.monoNs
  wallOffsetNs := st.wallOffset r
  lastSyncMonoNs := st.lastSyncMonoNs
  syncSource := st.syncSource
  syncQuality := st.syncQuality
  minWallNs := (r.floorSecs.map (saturatingMul · 1000000000)).getD 0
  flags := st.flags
  updateSeq := st.updateSeq

def reply : VtimeCmd where
  seq := st.lastCmdSeq
  op := 0
  correctionNs := 0
  syncSource := st.syncSource
  syncQuality := st.syncQuality
  status := st.lastCmdStatus
  guestId := 0

end WriterState

/-! ### Runs -/

/-- The two channels, the writer, and what a tick has read that is under way. The guest knows the
number that it waits for; besides that there are all commands that it has written, and all that were
given to `processAdjust`, the last one first. -/
structure State where
  regs : Option VtimeRegs := none
  adjust : Option VtimeCmd := none
  writer : WriterState := {}
  tick : Option Reading := none
  waiting : Option UInt32 := none
  written : List VtimeCmd := []
  taken : List VtimeCmd := []

/-- The channel holds an answer to the command with the number. -/
def Acknowledges (snapshot : Option VtimeCmd) (seq : UInt32) : Prop :=
  ∃ a, snapshot = some a ∧ a.seq = seq ∧ a.status ≠ VTIME_STATUS_PENDING

namespace State

variable (s : State)

/-- The first half of a tick: the channel is read, and a new command is processed. -/
def poll (r : Reading) : State :=
  match s.adjust with
  | some cmd =>
    if cmd.seq ≠ 0 ∧ cmd.seq ≠ s.writer.lastCmdSeq then
      { s with writer := s.writer.processAdjust r cmd, taken := cmd :: s.taken, tick := some r }
    else { s with tick := some r }
  | none => { s with tick := some r }

def publish (r : Reading) : State :=
  let st := s.writer.selfElect r
  let st := { st with updateSeq := st.updateSeq + 2 }
  { s with regs := some (st.regs r), adjust := some st.reply, writer := st, tick := none }

/-- The tick that is under way comes to its end, or else another one does. -/
def finish (r : Reading) : State :=
  match s.tick with
  | some r => s.publish r
  | none => (s.poll r).publish r

end State

inductive Event
  | poll (r : Reading)
  | publish
  | recreate
  | put (cmd : VtimeCmd)
  | get

/-- A device is dropped when its tick is over. The guest writes a command once the one before is
acknowledged. -/
inductive Step (s : State) : Event → State → Prop
  | poll (r : Reading) (idle : s.tick = none) : Step s (.poll r) (s.poll r)
  | publish {r : Reading} (under : s.tick = some r) : Step s .publish (s.publish r)
  | recreate (idle : s.tick = none) : Step s .recreate { s with writer := {} }
  | put {cmd : VtimeCmd} (free : s.waiting = none) (adjust : cmd.op = VTIME_CMD_ADJUST)
      (nonzero : cmd.seq ≠ 0) (pending : cmd.status = VTIME_STATUS_PENDING)
      (increasing : ∀ c ∈ s.written, c.seq < cmd.seq) :
      Step s (.put cmd) { s with
        adjust := some cmd, waiting := some cmd.seq, written := cmd :: s.written }
  | acknowledged {seq : UInt32} (waits : s.waiting = some seq)
      (acknowledged : Acknowledges s.adjust seq) :
      Step s .get { s with waiting := none }

/-- The guest does not write between the two halves of a tick. -/
def Untorn (s : State) : Event → Prop
  | .put _ => s.tick = none
  | _ => True

def Runs (allowed : State → Event → Prop) : State → Prop :=
  Reachable (· = {}) fun s t => ∃ event, allowed s event ∧ Step s event t

/-! ### The halves of a tick -/

namespace WriterState

variable (st : WriterState) (r : Reading) (cmd : VtimeCmd)

/-- The number of a command is claimed, whatever becomes of the command. -/
@[simp] theorem processAdjust_lastCmdSeq :
  (st.processAdjust r cmd).lastCmdSeq = cmd.seq
  := by
  dsimp only [processAdjust]
  split_ifs <;> rfl

/-- A command that was processed has an answer. -/
theorem processAdjust_lastCmdStatus :
  (st.processAdjust r cmd).lastCmdStatus ≠ VTIME_STATUS_PENDING
  := by
  dsimp only [processAdjust]
  split_ifs <;> dsimp only <;> decide

/-- The host sets its own clock without claiming a number. -/
@[simp] theorem selfElect_lastCmdSeq :
  (st.selfElect r).lastCmdSeq = st.lastCmdSeq
  := by
  unfold selfElect
  split_ifs <;> rfl

/-- The host sets its own clock without an answer to anybody. -/
@[simp] theorem selfElect_lastCmdStatus :
  (st.selfElect r).lastCmdStatus = st.lastCmdStatus
  := by
  unfold selfElect
  split_ifs <;> rfl

end WriterState

variable {s t : State} {r : Reading} {cmd : VtimeCmd} {seq : UInt32}

namespace State

/-- A command with a number that is not the last one is processed. -/
theorem poll_of_new (holds : s.adjust = some cmd) (nonzero : cmd.seq ≠ 0)
    (new : cmd.seq ≠ s.writer.lastCmdSeq) :
  s.poll r = { s with
    writer := s.writer.processAdjust r cmd, taken := cmd :: s.taken, tick := some r }
  := by
  simp only [poll, holds]
  rw [if_pos ⟨nonzero, new⟩]

/-- What has no number, or the last one, is not processed. -/
theorem poll_of_old (old : ∀ c, s.adjust = some c → c.seq ≠ 0 → c.seq = s.writer.lastCmdSeq) :
  s.poll r = { s with tick := some r }
  := by
  unfold poll
  cases holds : s.adjust with
  | none => rfl
  | some c =>
    dsimp only
    rw [if_neg]
    rintro ⟨nonzero, new⟩
    apply new (old c holds nonzero)

/-- What a tick writes is the answer to the last command that was processed. -/
theorem publish_adjust_seq :
  ∃ a, (s.publish r).adjust = some a ∧ a.seq = s.writer.lastCmdSeq ∧
    a.status = s.writer.lastCmdStatus ∧ a.op ≠ VTIME_CMD_ADJUST
  := by
  refine ⟨_, rfl, ?_, ?_, ?_⟩
  · simp [WriterState.reply]
  · simp [WriterState.reply]
  · dsimp only [WriterState.reply]
    decide

end State

/-! ### What holds in a run -/

def Known (s : State) (seq : UInt32) : Prop :=
  seq ≠ 0 → ∃ c ∈ s.written, c ∈ s.taken ∧ c.seq = seq

/-- Where the guest and the host are with the last command. Either the host has answered every
command, or the last one has not been read, or it was read and its answer is not written yet. -/
inductive Stage (s : State) : Prop
  | settled (all : ∀ c ∈ s.written, c ∈ s.taken)
      (echo : ∀ a, s.adjust = some a → a.op ≠ VTIME_CMD_ADJUST ∧ Known s a.seq)
      (waits : ∀ seq, s.waiting = some seq → seq ≠ 0 ∧ Acknowledges s.adjust seq ∧
        (s.tick ≠ none → s.writer.lastCmdSeq = seq))
  | pending (c : VtimeCmd) (idle : s.tick = none) (holds : s.adjust = some c)
      (wrote : c ∈ s.written) (waits : s.waiting = some c.seq) (fresh : c ∉ s.taken)
      (others : ∀ d ∈ s.written, d = c ∨ d ∈ s.taken)
  | read (c : VtimeCmd) (under : s.tick ≠ none) (holds : s.adjust = some c) (wrote : c ∈ s.written)
      (waits : s.waiting = some c.seq) (all : ∀ d ∈ s.written, d ∈ s.taken)
      (claimed : s.writer.lastCmdSeq = c.seq)

/-- The invariant of a run. -/
structure Inv (s : State) : Prop where
  formed : ∀ c ∈ s.written, c.op = VTIME_CMD_ADJUST ∧ c.seq ≠ 0 ∧ c.status = VTIME_STATUS_PENDING
  increasing : s.written.Pairwise fun c d => d.seq < c.seq
  origin : ∀ c ∈ s.taken, c.op = VTIME_CMD_ADJUST → c ∈ s.written
  once : ∀ c ∈ s.written, s.taken.count c ≤ 1
  answered : s.writer.lastCmdSeq ≠ 0 → s.writer.lastCmdStatus ≠ VTIME_STATUS_PENDING
  known : Known s s.writer.lastCmdSeq
  stage : Stage s

namespace Inv

variable (inv : Inv s)
include inv

/-- Two commands have two numbers. -/
theorem eq_of_seq {c d : VtimeCmd} (hc : c ∈ s.written) (hd : d ∈ s.written)
    (same : c.seq = d.seq) :
  c = d
  := by
  have apart : (s.written.map (·.seq)).Nodup := by
    apply pairwise_map.2
    apply inv.increasing.imp
    exact Ne.symm ∘ UInt32.ne_of_lt
  apply inj_on_of_nodup_map apart hc hd same

section

variable (under : s.tick ≠ none)
include under

/-- What a tick will write is an answer to the command that the guest waits for. -/
theorem claimed (waits : s.waiting = some seq) :
  seq ≠ 0 ∧ s.writer.lastCmdSeq = seq
  := by
  cases inv.stage with
  | settled _ _ waited =>
    obtain ⟨nonzero, -, claimed⟩ := waited seq waits
    exact ⟨nonzero, claimed under⟩
  | pending _ idle => exact absurd idle under
  | read c _ _ wrote waited _ claimed =>
    obtain rfl := some.inj (waited.symm.trans waits)
    exact ⟨(inv.formed c wrote).2.1, claimed⟩

/-- The guest finds the answer that it waits for once the tick is over. -/
theorem publish_acknowledges (waits : s.waiting = some seq) :
  Acknowledges (s.publish r).adjust seq
  := by
  obtain ⟨nonzero, claimed⟩ := inv.claimed under waits
  obtain ⟨a, writes, number, status, -⟩ := State.publish_adjust_seq (s := s) (r := r)
  refine ⟨a, writes, number.trans claimed, ?_⟩
  rw [status]
  apply inv.answered
  rw [claimed]
  apply nonzero

/-- Every command has been taken once a tick has read the channel. -/
theorem all_of_under :
  ∀ c ∈ s.written, c ∈ s.taken
  := by
  cases inv.stage with
  | settled all => exact all
  | pending _ idle => exact absurd idle under
  | read _ _ _ _ _ all => exact all

/-- The end of a tick keeps the invariant. -/
theorem publish :
  Inv (s.publish r)
  := by
  obtain ⟨formed, increasing, origin, once, answered, known, -⟩ := id inv
  have all := inv.all_of_under under
  refine ⟨formed, increasing, origin, once, ?_, ?_, .settled all ?_ ?_⟩
  · simpa [State.publish] using answered
  · simpa [State.publish, Known] using known
  · intro a writes
    obtain ⟨b, wrote, number, -, op⟩ := State.publish_adjust_seq (s := s) (r := r)
    obtain rfl := some.inj (writes.symm.trans wrote)
    refine ⟨op, ?_⟩
    rw [number]
    apply known
  · intro seq waits
    exact ⟨(inv.claimed under waits).1, inv.publish_acknowledges under waits, fun h => absurd rfl h⟩

end

/-- A tick that finds nothing new, where no command is left to be read. -/
theorem poll_of_old (old : ∀ c, s.adjust = some c → c.seq ≠ 0 → c.seq = s.writer.lastCmdSeq)
    (all : ∀ c ∈ s.written, c ∈ s.taken)
    (echo : ∀ a, s.adjust = some a → a.op ≠ VTIME_CMD_ADJUST ∧ Known s a.seq)
    (waits : ∀ seq, s.waiting = some seq → seq ≠ 0 ∧ Acknowledges s.adjust seq) :
  Inv (s.poll r)
  := by
  rw [State.poll_of_old old]
  refine ⟨inv.formed, inv.increasing, inv.origin, inv.once, inv.answered, inv.known,
    .settled all echo ?_⟩
  intro seq wait
  obtain ⟨nonzero, a, holds, rfl, status⟩ := waits seq wait
  exact ⟨nonzero, ⟨a, holds, rfl, status⟩, fun _ => (old a holds nonzero).symm⟩

section

variable (holds : s.adjust = some cmd)
include holds

/-- A tick that takes what the channel holds. -/
theorem poll_of_new (nonzero : cmd.seq ≠ 0)
    (new : cmd.seq ≠ s.writer.lastCmdSeq) (origin : cmd.op = VTIME_CMD_ADJUST → cmd ∈ s.written)
    (fresh : cmd ∈ s.written → cmd ∉ s.taken)
    (known : Known { s with taken := cmd :: s.taken } cmd.seq)
    (stage : Stage { s with
      writer := s.writer.processAdjust r cmd, taken := cmd :: s.taken, tick := some r }) :
  Inv (s.poll r)
  := by
  rw [State.poll_of_new holds nonzero new]
  refine ⟨inv.formed, inv.increasing, forall_mem_cons.2 ⟨origin, inv.origin⟩, ?_, ?_, ?_, stage⟩
  · intro c wrote
    by_cases same : cmd = c
    · subst same
      simp [count_eq_zero_of_not_mem (fresh wrote)]
    · simpa [count_cons, same] using inv.once c wrote
  · intro
    apply WriterState.processAdjust_lastCmdStatus
  · simpa [Known] using known

/-- The answer of a device that is gone is new to the one that was created after it. -/
theorem poll_of_echo (nonzero : cmd.seq ≠ 0)
    (new : cmd.seq ≠ s.writer.lastCmdSeq) (all : ∀ c ∈ s.written, c ∈ s.taken)
    (op : cmd.op ≠ VTIME_CMD_ADJUST) (known : Known s cmd.seq)
    (waits : ∀ seq, s.waiting = some seq → seq ≠ 0 ∧ Acknowledges s.adjust seq) :
  Inv (s.poll r)
  := by
  have remains : Known { s with taken := cmd :: s.taken } cmd.seq := by
    intro nonzero
    obtain ⟨c, wrote, took, same⟩ := known nonzero
    exact ⟨c, wrote, .tail _ took, same⟩
  apply inv.poll_of_new holds nonzero new (absurd · op) _ remains
  · refine .settled (fun c wrote => .tail _ (all c wrote)) ?_ ?_
    · intro b also
      obtain rfl := some.inj (holds.symm.trans also)
      exact ⟨op, remains⟩
    · intro seq wait
      obtain ⟨nonzero, b, also, rfl, status⟩ := waits seq wait
      obtain rfl := some.inj (holds.symm.trans also)
      exact ⟨nonzero, ⟨cmd, also, rfl, status⟩, fun _ => by simp⟩
  · intro wrote
    exact absurd (inv.formed cmd wrote).1 op

/-- The command of the guest is new to the host, for no other has its number. -/
theorem poll_of_pending (wrote : cmd ∈ s.written)
    (waits : s.waiting = some cmd.seq) (fresh : cmd ∉ s.taken)
    (others : ∀ d ∈ s.written, d = cmd ∨ d ∈ s.taken) :
  Inv (s.poll r)
  := by
  have nonzero := (inv.formed cmd wrote).2.1
  have new : cmd.seq ≠ s.writer.lastCmdSeq := by
    intro same
    obtain ⟨c, was, took, number⟩ := inv.known (same ▸ nonzero)
    obtain rfl := inv.eq_of_seq was wrote (number.trans same.symm)
    exact fresh took
  apply inv.poll_of_new holds nonzero new (fun _ => wrote) (fun _ => fresh)
  · intro
    exact ⟨cmd, wrote, .head _, rfl⟩
  · refine .read cmd nofun holds wrote waits ?_ (by simp)
    intro d was
    exact mem_cons.2 (others d was)

end

/-- A tick finds either the command that it has yet to take, or an answer. -/
theorem poll (idle : s.tick = none) :
  Inv (s.poll r)
  := by
  cases inv.stage with
  | settled all echo waits =>
    have waits' := fun seq wait => (waits seq wait).imp_right And.left
    by_cases old : ∀ c, s.adjust = some c → c.seq ≠ 0 → c.seq = s.writer.lastCmdSeq
    · apply inv.poll_of_old old all echo waits'
    · push Not at old
      obtain ⟨a, holds, nonzero, new⟩ := old
      obtain ⟨op, known⟩ := echo a holds
      apply inv.poll_of_echo holds nonzero new all op known waits'
  | pending _ _ holds wrote waits fresh others =>
    exact inv.poll_of_pending holds wrote waits fresh others
  | read _ under => exact absurd idle under

/-- A device that is created again has forgotten the last number, which is taken all the same. -/
theorem recreate (idle : s.tick = none) :
  Inv { s with writer := {} }
  := by
  refine ⟨inv.formed, inv.increasing, inv.origin, inv.once, fun h => absurd rfl h,
    fun h => absurd rfl h, ?_⟩
  cases inv.stage with
  | settled all echo waits =>
    refine .settled all echo ?_
    intro seq wait
    obtain ⟨nonzero, acknowledges, -⟩ := waits seq wait
    exact ⟨nonzero, acknowledges, fun under => absurd idle under⟩
  | pending c idle holds wrote waits fresh others =>
    exact .pending c idle holds wrote waits fresh others
  | read _ under => exact absurd idle under

/-- A command is pending once it is written, and has a number of its own. -/
theorem put (free : s.waiting = none) (idle : s.tick = none) (adjust : cmd.op = VTIME_CMD_ADJUST)
    (nonzero : cmd.seq ≠ 0) (pending : cmd.status = VTIME_STATUS_PENDING)
    (increasing : ∀ c ∈ s.written, c.seq < cmd.seq) :
  Inv { s with adjust := some cmd, waiting := some cmd.seq, written := cmd :: s.written }
  := by
  have fresh : cmd ∉ s.taken := by
    intro took
    apply UInt32.lt_irrefl _ (increasing cmd (inv.origin cmd took adjust))
  have all : ∀ c ∈ s.written, c ∈ s.taken := by
    cases inv.stage with
    | settled all => exact all
    | pending _ _ _ _ waits => simp [free] at waits
    | read _ under => exact absurd idle under
  refine ⟨forall_mem_cons.2 ⟨⟨adjust, nonzero, pending⟩, inv.formed⟩,
    .cons increasing inv.increasing,
    fun c took adjusts => .tail _ (inv.origin c took adjusts), forall_mem_cons.2 ⟨?_, inv.once⟩,
    inv.answered, ?_, .pending cmd idle rfl (.head _) rfl fresh ?_⟩
  · simp [count_eq_zero_of_not_mem fresh]
  · intro nonzero
    obtain ⟨c, wrote, known⟩ := inv.known nonzero
    exact ⟨c, .tail _ wrote, known⟩
  · intro d wrote
    apply (mem_cons.1 wrote).imp_right
    apply all

/-- Only an answer is acknowledged, so no command is lost when the guest stops waiting. -/
theorem get (acknowledged : Acknowledges s.adjust seq) :
  Inv { s with waiting := none }
  := by
  have unanswered : ∀ c ∈ s.written, s.adjust ≠ some c := by
    intro c wrote holds
    obtain ⟨a, also, -, status⟩ := acknowledged
    obtain rfl := some.inj (holds.symm.trans also)
    exact status (inv.formed c wrote).2.2
  refine ⟨inv.formed, inv.increasing, inv.origin, inv.once, inv.answered, inv.known, ?_⟩
  cases inv.stage with
  | settled all echo => exact .settled all echo nofun
  | pending c idle holds wrote | read c under holds wrote => exact absurd holds (unanswered c wrote)

/-- Every event keeps the invariant, unless the guest writes within a tick. -/
theorem step {event : Event} (untorn : Untorn s event) (step : Step s event t) :
  Inv t
  := by
  cases step with
  | poll _ idle => exact inv.poll idle
  | publish under => exact inv.publish (by simp [under])
  | recreate idle => exact inv.recreate idle
  | put free adjust nonzero pending increasing =>
    exact inv.put free untorn adjust nonzero pending increasing
  | acknowledged _ acknowledged => exact inv.get acknowledged

/-- The guest does not wait for more than a tick. -/
theorem finish_acknowledges (waits : s.waiting = some seq) :
  Acknowledges (s.finish r).adjust seq
  := by
  unfold State.finish
  cases under : s.tick with
  | some => exact inv.publish_acknowledges (by simp [under]) waits
  | none =>
    have polled : (s.poll r).tick = some r ∧ (s.poll r).waiting = s.waiting := by
      unfold State.poll
      split
      · split_ifs <;> exact ⟨rfl, rfl⟩
      · exact ⟨rfl, rfl⟩
    exact (inv.poll under).publish_acknowledges (by simp [polled.1]) (polled.2.trans waits)

/-- Each command is either still in the channel or taken, and never twice. -/
theorem held_or_taken (wrote : cmd ∈ s.written) :
  (cmd ∈ s.taken ∨ s.adjust = some cmd) ∧ s.taken.count cmd ≤ 1
  := by
  refine ⟨?_, inv.once cmd wrote⟩
  cases inv.stage with
  | settled all => exact .inl (all cmd wrote)
  | pending _ _ holds _ _ _ others =>
    rcases others cmd wrote with rfl | took
    · exact .inr holds
    · exact .inl took
  | read _ _ _ _ _ all => exact .inl (all cmd wrote)

end Inv

/-- The invariant holds in every run in which the guest does not write within a tick. -/
theorem Runs.inv (run : Runs Untorn s) :
  Inv s
  := by
  apply run.invariant
  · rintro _ rfl
    refine ⟨nofun, .nil, nofun, nofun, fun h => absurd rfl h, fun h => absurd rfl h, ?_⟩
    exact .settled nofun nofun nofun
  · rintro s t inv ⟨event, untorn, step⟩
    exact inv.step untorn step

/-- Where the guest never writes between the two halves of a tick, each of its commands is either
held by the channel or was taken, and none twice; and the tick under way or the next one
acknowledges the command that the guest waits for. -/
theorem command_taken_once (run : Runs Untorn s) :
  (∀ c ∈ s.written, (c ∈ s.taken ∨ s.adjust = some c) ∧ s.taken.count c ≤ 1) ∧
  ∀ seq, s.waiting = some seq → ∀ r, Acknowledges (s.finish r).adjust seq
  := by
  constructor
  · intro c wrote
    apply run.inv.held_or_taken wrote
  · intro seq waits r
    apply run.inv.finish_acknowledges waits

def firstCommand : VtimeCmd where
  seq := 1
  op := VTIME_CMD_ADJUST
  correctionNs := 5
  syncSource := .ntp
  syncQuality := .medium
  status := VTIME_STATUS_PENDING
  guestId := TIME_DEFAULT_SYNC_GUEST_ID

def written : State where
  adjust := some firstCommand
  waiting := some 1
  written := [firstCommand]

theorem written_runs :
  Runs Untorn written
  := by
  have run : Runs Untorn {} := .init rfl
  apply run.step
  refine ⟨.put firstCommand, rfl, ?_⟩
  exact .put rfl rfl (by decide) rfl nofun

def secondCommand : VtimeCmd :=
  { firstCommand with seq := 2 }

/-- The first command was acknowledged, the second one is written, and the device is created
again. -/
def writtenAgain : State :=
  { (written.poll {}).publish {} with
    adjust := some secondCommand
    writer := {}
    waiting := some 2
    written := [secondCommand, firstCommand] }

theorem writtenAgain_runs :
  Runs Untorn writtenAgain
  := by
  have polled := written_runs.step ⟨.poll {}, trivial, .poll {} rfl⟩
  have published := polled.step ⟨.publish, trivial, .publish rfl⟩
  have got := published.step ⟨.get, trivial, .acknowledged rfl ⟨_, rfl, rfl, by decide⟩⟩
  have put := got.step ⟨.put secondCommand, rfl, .put rfl rfl (by decide) rfl (by decide)⟩
  exact put.step ⟨.recreate, trivial, .recreate rfl⟩

/-- The first command was taken once, and is not taken by the new device; the second one is held,
and acknowledged by its next tick. -/
theorem command_taken_once_written :
  Runs Untorn writtenAgain ∧ firstCommand ∈ writtenAgain.taken ∧
    writtenAgain.taken.count firstCommand ≤ 1 ∧ writtenAgain.adjust = some secondCommand ∧
    ∀ r, Acknowledges (writtenAgain.finish r).adjust 2
  := by
  obtain ⟨once, acknowledges⟩ := command_taken_once writtenAgain_runs
  exact ⟨writtenAgain_runs, .head _, (once firstCommand (.tail _ (.head _))).2, rfl,
    acknowledges 2 rfl⟩

/-- The command is written after the tick has read the channel, and the tick writes over it. -/
def overwritten : State :=
  { written with tick := some {} }.publish {}

/-- The next tick has no number to answer to. -/
theorem overwritten_finish_seq {a : VtimeCmd} (writes : (overwritten.finish r).adjust = some a) :
  a.seq = 0
  := by
  obtain ⟨b, wrote, same, -⟩ := State.publish_adjust_seq (s := overwritten.poll r) (r := r)
  obtain rfl := some.inj (writes.symm.trans wrote)
  have old : overwritten.poll r = { overwritten with tick := some r } := by
    apply State.poll_of_old
    rintro _ ⟨⟩ nonzero
    exact absurd rfl nonzero
  rw [same, old]
  rfl

/-- The host has never seen the command, and no tick acknowledges it. -/
theorem command_overwritten :
  ∃ s, Runs (fun _ _ => True) s ∧ s.written = [firstCommand] ∧ s.taken = [] ∧
    s.adjust ≠ some firstCommand ∧ s.waiting = some firstCommand.seq ∧
    ∀ r, ¬Acknowledges (s.finish r).adjust firstCommand.seq
  := by
  have run : Runs (fun _ _ => True) {} := .init rfl
  have polled := run.step ⟨.poll {}, trivial, .poll {} rfl⟩
  have put := polled.step ⟨.put firstCommand, trivial, .put rfl rfl (by decide) rfl nofun⟩
  have published := put.step ⟨.publish, trivial, .publish rfl⟩
  refine ⟨overwritten, published, rfl, rfl, by decide +kernel, rfl, ?_⟩
  rintro r ⟨a, writes, number, -⟩
  rw [overwritten_finish_seq writes] at number
  revert number
  decide

end Vtime
