import MachineManager.Component.FlashCalls
import MachineManager.Component.Siblings

/-!
# What a session stages

A session counts the parts of its manifest that are in the target bank, and the bank is sealed when
all of them are. Several uploads may be under way at a time. The parts that are counted are those of
the manifest of the session, provided that no payload is on its way, and no bank about to be sealed,
when a manifest settles the bank; an upload begun for an earlier manifest would otherwise be counted
for the later one.
-/

open Option

namespace ComponentMgr

open Call Nv Selector SystemBank Flash List Manifest BankArea

variable {β δ : Type} {i : ℕ} {f : Flash β δ} {m : Manifest δ} {op : FlashOp β δ}
    {area : BankArea β δ}

section Parts

variable (hash : β → δ)

/-- The bank has a part with the digest that the manifest declares, under the name of the part. -/
def Holds (area : BankArea β δ) (m : Manifest δ) (i : ℕ) : Prop :=
  ∃ name content, m.partName i = some name ∧ area.files[name]? = some content ∧
    m.imageDigest i = some (hash content)

/-- Parts with one name have one digest; where a part is written in place, no two have one name. -/
def Manifest.Unmixed (m : Manifest δ) (stages : Bool) : Prop :=
  ∀ i ∈ m.parts, ∀ j ∈ m.parts, ∀ name, m.partName i = some name → m.partName j = some name →
    m.imageDigest i = m.imageDigest j ∧ (stages = false → i = j)

variable {hash} {area' : BankArea β δ} {j : ℕ}

theorem Manifest.mem_parts {digest : δ} (declared : m.imageDigest i = some digest) :
  i ∈ m.parts
  := by
  refine mem_filter.mpr ⟨?_, by rw [declared]; rfl⟩
  rw [mem_range]
  by_contra outside
  rw [imageDigest, getElem?_eq_none (Nat.le_of_not_lt outside)] at declared
  cases declared

theorem Holds.mem_parts (holds : Holds hash area m i) :
  i ∈ m.parts
  := by
  obtain ⟨name, content, -, -, declared⟩ := holds
  apply Manifest.mem_parts declared

theorem Holds.congr (holds : Holds hash area m i) (same : area'.files = area.files) :
  Holds hash area' m i
  := by
  obtain ⟨name, content, named, found, declared⟩ := holds
  refine ⟨name, content, named, ?_, declared⟩
  rw [same]
  apply found

variable {name : String} {content : β}

/-- A part was written. -/
theorem Holds.of_insert (named : m.partName i = some name)
    (declared : m.imageDigest i = some (hash content))
    (written : area'.files = area.files.insert name content) :
  Holds hash area' m i
  := by
  refine ⟨name, content, named, ?_, declared⟩
  rw [written, Std.ExtTreeMap.getElem?_insert_self]

/-- A part with another name was written, or one with the same digest. -/
theorem Holds.insert (holds : Holds hash area m i)
    (written : area'.files = area.files.insert name content)
    (same : m.partName i = some name → m.imageDigest i = some (hash content)) :
  Holds hash area' m i
  := by
  obtain ⟨name', content', named, found, declared⟩ := holds
  by_cases eq : name = name'
  · subst eq
    apply Holds.of_insert named (same named) written
  · refine ⟨name', content', named, ?_, declared⟩
    have ne : compare name name' ≠ .eq := fun h => eq (Std.LawfulEqCmp.eq_of_compare h)
    rw [written, Std.ExtTreeMap.getElem?_insert, if_neg ne, found]

/-- A file was written that was not there. -/
theorem Holds.seed (holds : Holds hash area m i)
    (written : area'.files = area.files.insert name content) (missing : area.files[name]? = none) :
  Holds hash area' m i
  := by
  refine holds.insert written fun named => ?_
  obtain ⟨name', content', named', found, -⟩ := holds
  rw [← some.inj (named.symm.trans named'), missing] at found
  cases found

end Parts

/-! ### Updates whose parts are those of the manifest -/

def Upload.index {δ : Type} : Upload δ → Option ℕ
  | payload job => some job.next
  | landed _ i => some i
  | _ => none

section Flashes

variable (hash : β → δ) (stages : Bool) (target : Bank)

/-- No payload is on its way. -/
def Flash.NoParts (f : Flash β δ) : Prop :=
  ∀ u, ∀ upload ∈ f.uploads u, upload.index = none

/-- There is nothing that could be signed: the transfer has brought no files, and a bank of
directories is empty. -/
structure Flash.Bare (f : Flash β δ) : Prop where
  streamed : f.streamedFiles = []
  empty : stages = true → (f.area target).files = ∅

/-- What is known of a call under way. A payload belongs to the manifest of the session; a bank is
only sealed when it has all parts of it, or nothing at all. -/
def Flash.Fits (f : Flash β δ) : Upload δ → Prop
  | .manifest => True
  | .settled m bank kept => bank = target ∧ m.Unmixed stages ∧
      (∀ k ∈ kept, Holds hash (f.area target) m k.1) ∧ (m.integrated = true → f.Bare stages target)
  | .payload job => job.target = target ∧ f.current = some job.manifest ∧
      (stages = false → job.next ∈ job.manifest.parts)
  | .landed job i => job.target = target ∧ f.current = some job.manifest ∧
      Holds hash (f.area target) job.manifest i
  | .sealing bank => bank = target ∧ ∃ m, f.current = some m ∧
      ((∀ i ∈ m.parts, Holds hash (f.area target) m i) ∧ (stages = false → f.NoParts) ∨
        f.Bare stages target ∧ f.NoParts)
  | .legacy _ | .reconciling .. => False

/-- The parts that are counted are there. Where parts are written in place, no two uploads are about
one part, and none is about a part that is counted. A call that has settled the bank is the only one
that touches it until the session has its manifest, and only one call at a time is about to seal
it. -/
structure Flash.Matched (f : Flash β δ) : Prop where
  session : ∀ m present, f.session = some (.awaitingPayload m present) →
    f.current = some m ∧ ∀ i ∈ present, Holds hash (f.area target) m i
  uploads : ∀ u, ∀ upload ∈ f.uploads u, f.Fits hash stages target upload
  unmixed : ∀ m ∈ f.current, m.Unmixed stages
  exclusive : stages = false → ∀ u v i, ∀ up ∈ f.uploads u, ∀ up' ∈ f.uploads v, up.index = some i →
    up'.index = some i → u = v
  uncounted : stages = false → ∀ m present, f.session = some (.awaitingPayload m present) →
    ∀ u i, ∀ up ∈ f.uploads u, up.index = some i → i ∉ present
  alone : ∀ u m bank kept, f.uploads u = some (.settled m bank kept) →
    (∀ m' present, f.session ≠ some (.awaitingPayload m' present)) ∧
    ∀ v, v ≠ u → ∀ up ∈ f.uploads v, up = .manifest
  closing : ∀ u bank, f.uploads u = some (.sealing bank) →
    (∀ m' present, f.session ≠ some (.awaitingPayload m' present)) ∧
    ∀ v, v ≠ u → ∀ bank', f.uploads v ≠ some (.sealing bank')

variable {hash stages target} {g : Flash β δ} {u v : ℕ} {up : Upload δ} {job : PayloadJob δ}
  {present : Finset ℕ}

theorem Flash.mem_setUpload {upload : Option (Upload δ)}
    (uploads : g.uploads = (f.setUpload u upload).uploads) (mem : up ∈ g.uploads v) :
  v = u ∧ up ∈ upload ∨ v ≠ u ∧ up ∈ f.uploads v
  := by
  rw [uploads] at mem
  dsimp only [setUpload] at mem
  split at mem
  next same => exact .inl ⟨same, mem⟩
  next ne => exact .inr ⟨ne, mem⟩

/-- What is known of a call does not depend on the others, except that they are no payloads. -/
theorem Flash.Fits.mono {upload : Upload δ} (fits : f.Fits hash stages target upload)
    (files : (g.area target).files = (f.area target).files) (current : g.current = f.current)
    (streamed : f.streamedFiles = [] → g.streamedFiles = [])
    (parts : ∀ bank, upload = .sealing bank → f.NoParts → g.NoParts) :
  g.Fits hash stages target upload
  := by
  have bare : f.Bare stages target → g.Bare stages target :=
    fun bare => ⟨streamed bare.streamed, fun staging => files.trans (bare.empty staging)⟩
  cases upload with
  | manifest => trivial
  | settled =>
    obtain ⟨same, unmixed, holds, integrated⟩ := fits
    exact ⟨same, unmixed, fun k mem => (holds k mem).congr files, fun h => bare (integrated h)⟩
  | payload =>
    obtain ⟨same, manifest, next⟩ := fits
    exact ⟨same, current.trans manifest, next⟩
  | landed =>
    obtain ⟨same, manifest, holds⟩ := fits
    exact ⟨same, current.trans manifest, holds.congr files⟩
  | sealing bank =>
    obtain ⟨same, m, manifest, ⟨holds, alone⟩ | ⟨empty, alone⟩⟩ := fits
    · exact ⟨same, m, current.trans manifest, .inl ⟨fun i mem => (holds i mem).congr files,
        fun device => parts bank rfl (alone device)⟩⟩
    · exact ⟨same, m, current.trans manifest, .inr ⟨bare empty, parts bank rfl alone⟩⟩
  | legacy | reconciling => apply fits

namespace Flash.Matched

section

variable (matched : f.Matched hash stages target)
include matched

/-- Calls under way may end, and the session may be left. -/
theorem mono (files : (g.area target).files = (f.area target).files)
    (current : g.current = f.current) (streamed : f.streamedFiles = [] → g.streamedFiles = [])
    (uploads : ∀ u, ∀ up ∈ g.uploads u, up ∈ f.uploads u)
    (session : ∀ m present, g.session = some (.awaitingPayload m present) →
      f.session = some (.awaitingPayload m present)) :
  g.Matched hash stages target
  where
  session m present awaits := by
    obtain ⟨manifest, holds⟩ := matched.session m present (session m present awaits)
    exact ⟨current.trans manifest, fun i mem => (holds i mem).congr files⟩
  uploads u up mem := by
    apply (matched.uploads u up (uploads u up mem)).mono files current streamed
    intro _ _ noParts v up' mem'
    apply noParts v up' (uploads v up' mem')
  unmixed := by
    rw [current]
    apply matched.unmixed
  exclusive device u v i up hu up' hv := matched.exclusive device u v i up (uploads u up hu) up'
    (uploads v up' hv)
  uncounted device m present awaits u i up hu :=
    matched.uncounted device m present (session m present awaits) u i up (uploads u up hu)
  alone u m bank kept settled := by
    obtain ⟨closed, others⟩ := matched.alone u m bank kept (uploads u _ settled)
    exact ⟨fun m' present awaits => closed m' present (session m' present awaits),
      fun v ne up mem => others v ne up (uploads v up mem)⟩
  closing u bank sealing := by
    obtain ⟨closed, others⟩ := matched.closing u bank (uploads u _ sealing)
    exact ⟨fun m' present awaits => closed m' present (session m' present awaits),
      fun v ne bank' mem => others v ne bank' (uploads v _ mem)⟩

theorem dropUpload (u : ℕ) :
  (f.setUpload u none).Matched hash stages target
  := by
  refine matched.mono rfl rfl id ?_ fun _ _ awaits => awaits
  intro v up mem
  obtain ⟨-, ⟨⟩⟩ | ⟨-, mem⟩ := mem_setUpload rfl mem
  apply mem

theorem started :
  f.started.Matched hash stages target
  := matched.mono rfl rfl (fun _ => rfl) (fun _ _ mem => mem) nofun

theorem cleared :
  f.cleared.Matched hash stages target
  := matched.mono rfl rfl (fun _ => rfl) (fun _ _ mem => mem) nofun

/-- What is staged beside the bank changes, but not the bank. -/
theorem setArea {bank : Bank} (same : area.files = (f.area bank).files) :
  (f.setArea bank area).Matched hash stages target
  := by
  refine matched.mono ?_ rfl id (fun _ _ mem => mem) fun _ _ awaits => awaits
  dsimp only [Flash.setArea]
  split
  next eq => rw [eq, same]
  next => rfl

/-- A payload is on its way, or was verified: the session awaits it. -/
theorem not_alone (upload : f.uploads u = some up) (part : up.index = some i) :
  (∀ m bank kept, f.uploads v ≠ some (.settled m bank kept)) ∧
    (∀ bank, f.uploads v = some (.sealing bank) → stages = true ∧ ∃ m, f.current = some m ∧
      ∀ j ∈ m.parts, Holds hash (f.area target) m j)
  := by
  constructor
  · intro m bank kept settled
    by_cases same : u = v
    · rw [same, settled] at upload
      cases upload
      cases part
    · rw [(matched.alone v m bank kept settled).2 u same up upload] at part
      cases part
  · intro bank sealing
    have some_part : ¬f.NoParts := by
      intro noParts
      cases (noParts u up upload).symm.trans part
    obtain ⟨-, m, manifest, ⟨holds, alone⟩ | ⟨-, alone⟩⟩ := matched.uploads v _ sealing
    · refine ⟨?_, m, manifest, holds⟩
      by_contra device
      apply some_part (alone (Bool.eq_false_of_not_eq_true device))
    · apply absurd alone some_part

/-- A call brings a manifest, or comes to be about a part. -/
theorem put (up : Upload δ) (session : g.session = f.session) (current : g.current = f.current)
    (uploads : g.uploads = (f.setUpload u (some up)).uploads) (fits : g.Fits hash stages target up)
    (others : ∀ v, v ≠ u → ∀ up' ∈ f.uploads v, g.Fits hash stages target up')
    (holds : ∀ m present, f.session = some (.awaitingPayload m present) →
      ∀ i ∈ present, Holds hash (g.area target) m i)
    (kind : up = .manifest ∨ up.index.isSome ∧ ∀ v m bank kept,
      f.uploads v ≠ some (.settled m bank kept))
    (free : stages = false → ∀ i, up.index = some i →
      (∀ v, v ≠ u → ∀ up' ∈ f.uploads v, up'.index ≠ some i) ∧
        ∀ m present, f.session = some (.awaitingPayload m present) → i ∉ present) :
  g.Matched hash stages target
  := by
  constructor
  case session =>
    intro m present awaits
    rw [session] at awaits
    exact ⟨current.trans (matched.session m present awaits).1, holds m present awaits⟩
  case uploads =>
    intro v up' mem
    obtain ⟨-, ⟨⟩⟩ | ⟨ne, mem⟩ := mem_setUpload uploads mem
    · apply fits
    · apply others v ne up' mem
  case unmixed =>
    rw [current]
    apply matched.unmixed
  case exclusive =>
    intro device v v' i up₁ member₁ up₂ member₂ index₁ index₂
    obtain ⟨rfl, ⟨⟩⟩ | ⟨ne₁, member₁⟩ := mem_setUpload uploads member₁ <;>
      obtain ⟨rfl, ⟨⟩⟩ | ⟨ne₂, member₂⟩ := mem_setUpload uploads member₂
    · rfl
    · apply absurd index₂ ((free device i index₁).1 v' ne₂ up₂ member₂)
    · apply absurd index₁ ((free device i index₂).1 v ne₁ up₁ member₁)
    · apply matched.exclusive device v v' i up₁ member₁ up₂ member₂ index₁ index₂
  case uncounted =>
    intro device m present awaits v i up' mem index
    rw [session] at awaits
    obtain ⟨rfl, ⟨⟩⟩ | ⟨-, mem⟩ := mem_setUpload uploads mem
    · apply (free device i index).2 m present awaits
    · apply matched.uncounted device m present awaits v i up' mem index
  case alone =>
    intro v m bank kept settled
    obtain ⟨-, ⟨⟩⟩ | ⟨-, mem⟩ := mem_setUpload uploads settled
    · obtain ⟨⟨⟩⟩ | ⟨⟨⟩, -⟩ := kind
    obtain ⟨closed, only⟩ := matched.alone v m bank kept mem
    rw [session]
    refine ⟨closed, fun v' ne up' mem' => ?_⟩
    obtain ⟨-, ⟨⟩⟩ | ⟨-, mem'⟩ := mem_setUpload uploads mem'
    · apply kind.resolve_right fun part => part.2 v m bank kept mem
    · apply only v' ne up' mem'
  case closing =>
    intro v bank sealing
    obtain ⟨-, ⟨⟩⟩ | ⟨-, mem⟩ := mem_setUpload uploads sealing
    · obtain ⟨⟨⟩⟩ | ⟨⟨⟩, -⟩ := kind
    obtain ⟨closed, only⟩ := matched.closing v bank mem
    rw [session]
    refine ⟨closed, fun v' ne bank' sealing' => ?_⟩
    obtain ⟨-, ⟨⟩⟩ | ⟨-, mem'⟩ := mem_setUpload uploads sealing'
    · obtain ⟨⟨⟩⟩ | ⟨⟨⟩, -⟩ := kind
    · apply only v' ne bank' mem'

/-- A payload writes its part, or has written it. -/
theorem land (up : Upload δ) (upload : f.uploads u = some (.payload job))
    (session : g.session = f.session)
    (current : g.current = f.current) (uploads : g.uploads = (f.setUpload u (some up)).uploads)
    (fits : g.Fits hash stages target up) (part : up.index = some i)
    (next : stages = false → i = job.next)
    (keeps : ∀ j, (stages = false → j ≠ job.next) → Holds hash (f.area target) job.manifest j →
      Holds hash (g.area target) job.manifest j) :
  g.Matched hash stages target
  := by
  have manifest : f.current = some job.manifest := (matched.uploads u _ upload).2.1
  -- No other call is about the part where it is written in place.
  have apart : stages = false → ∀ v, v ≠ u → ∀ j, ∀ up' ∈ f.uploads v, up'.index = some j →
    j ≠ job.next := by
    rintro device v ne j up' mem index rfl
    apply ne (matched.exclusive device v u job.next up' mem _ upload index rfl)
  apply matched.put up session current uploads fits
  case others =>
    intro v ne up' mem
    have known := matched.uploads v up' mem
    cases up' with
    | manifest => trivial
    | settled m bank kept => apply absurd mem ((matched.not_alone upload rfl).1 m bank kept)
    | payload =>
      obtain ⟨same, manifest', next'⟩ := known
      exact ⟨same, current.trans manifest', next'⟩
    | landed _ j =>
      obtain ⟨same, manifest', holds⟩ := known
      refine ⟨same, current.trans manifest', ?_⟩
      rw [← some.inj (manifest.symm.trans manifest')] at holds ⊢
      apply keeps j (fun device => apart device v ne j _ mem rfl) holds
    | sealing bank =>
      obtain ⟨staging, m, manifest', holds⟩ := (matched.not_alone upload rfl).2 bank mem
      obtain rfl : job.manifest = m := some.inj (manifest.symm.trans manifest')
      refine ⟨known.1, job.manifest, current.trans manifest, .inl ⟨?_, ?_⟩⟩
      · intro j counted
        refine keeps j (fun device => ?_) (holds j counted)
        cases staging.symm.trans device
      · intro device
        cases staging.symm.trans device
    | legacy | reconciling => apply known
  case holds =>
    intro m present awaits j counted
    obtain ⟨same, holds⟩ := matched.session m present awaits
    obtain rfl : job.manifest = m := some.inj (manifest.symm.trans same)
    refine keeps j ?_ (holds j counted)
    rintro device rfl
    apply matched.uncounted device _ present awaits u job.next _ upload rfl counted
  case kind =>
    right
    rw [part]
    exact ⟨rfl, fun v => (matched.not_alone upload rfl).1⟩
  case free =>
    intro device j index
    rw [some.inj (index.symm.trans part), next device]
    exact ⟨fun v ne up' mem index' => apart device v ne _ up' mem index' rfl,
      fun m present awaits => matched.uncounted device m present awaits u job.next _ upload rfl⟩

variable (upload : f.uploads u = some (.landed job i))
include upload

/-- The part that has landed is there, and so are those that were counted before. -/
theorem landed_holds (awaits : f.session = some (.awaitingPayload m present)) :
  job.manifest = m ∧ ∀ j ∈ insert i present, Holds hash (f.area target) m j
  := by
  obtain ⟨-, manifest, holds⟩ := matched.uploads u _ upload
  obtain ⟨same, counted⟩ := matched.session m present awaits
  obtain rfl : job.manifest = m := some.inj (manifest.symm.trans same)
  refine ⟨rfl, fun j mem => ?_⟩
  rcases Finset.mem_insert.mp mem with rfl | mem
  · apply holds
  · apply counted j mem

/-- Where parts are written in place, no other upload is about a part that is counted, or about the
one that has landed. -/
theorem landed_uncounted (device : stages = false)
    (awaits : f.session = some (.awaitingPayload m present))
    {j : ℕ} (ne : v ≠ u) (mem : up ∈ f.uploads v) (index : up.index = some j) :
  j ∉ insert i present
  := by
  intro counted
  rcases Finset.mem_insert.mp counted with rfl | counted
  · apply ne (matched.exclusive device v u j up mem _ upload index rfl)
  · apply matched.uncounted device m present awaits v j up mem index counted

/-- The session counts a part, and awaits more. -/
theorem count (awaits : f.session = some (.awaitingPayload m present)) :
  ({ f.setUpload u none with session := some (.awaitingPayload m (insert i present)) } :
    Flash β δ).Matched hash stages target
  := by
  have dropped := matched.dropUpload u
  constructor
  case session =>
    rintro _ _ ⟨⟩
    exact ⟨(matched.session m present awaits).1, (matched.landed_holds upload awaits).2⟩
  case uploads =>
    intro v up mem
    exact (dropped.uploads v up mem).mono rfl rfl id fun _ _ noParts => noParts
  case unmixed => apply matched.unmixed
  case exclusive => apply dropped.exclusive
  case uncounted =>
    rintro device _ _ ⟨⟩ v j up mem index
    obtain ⟨-, ⟨⟩⟩ | ⟨ne, mem⟩ := mem_setUpload rfl mem
    apply matched.landed_uncounted upload device awaits ne mem index
  case alone =>
    intro v m' bank kept settled
    obtain ⟨-, ⟨⟩⟩ | ⟨-, mem⟩ := mem_setUpload rfl settled
    apply absurd mem ((matched.not_alone upload rfl).1 m' bank kept)
  case closing =>
    intro v bank sealing
    obtain ⟨-, ⟨⟩⟩ | ⟨-, mem⟩ := mem_setUpload rfl sealing
    apply absurd awaits ((matched.closing v bank mem).1 m present)

/-- When the part that has landed is the last one, what else is under way is a manifest, or a
payload that is staged beside the bank. -/
theorem landed_others (awaits : f.session = some (.awaitingPayload job.manifest present))
    (counted : ∀ j ∈ job.manifest.parts, j ∈ insert i present) (ne : v ≠ u)
    (mem : up ∈ f.uploads v) :
  up = .manifest ∨ stages = true ∧ up.index.isSome
  := by
  have current : f.current = some job.manifest := (matched.uploads u _ upload).2.1
  have known := matched.uploads v up mem
  have staging : ∀ j, up.index = some j → (stages = false → j ∈ job.manifest.parts) →
    stages = true := by
    intro j index part
    by_contra device
    have device : stages = false := Bool.eq_false_of_not_eq_true device
    apply matched.landed_uncounted upload device awaits ne mem index (counted j (part device))
  cases up with
  | manifest => exact .inl rfl
  | settled m bank kept => apply absurd mem ((matched.not_alone upload rfl).1 m bank kept)
  | payload job' =>
    obtain ⟨-, same, next⟩ := known
    rw [← some.inj (current.symm.trans same)] at next
    exact .inr ⟨staging job'.next rfl next, rfl⟩
  | landed _ j =>
    obtain ⟨-, same, holds⟩ := known
    rw [← some.inj (current.symm.trans same)] at holds
    exact .inr ⟨staging j rfl fun _ => holds.mem_parts, rfl⟩
  | sealing bank => apply absurd awaits ((matched.closing v bank mem).1 _ present)
  | legacy | reconciling => apply known.elim

/-- The part that has landed was the last one: the session is complete, and the bank has all
parts. -/
theorem finish (awaits : f.session = some (.awaitingPayload m present))
    (complete : m.absentParts (insert i present) = []) :
  ({ f.setUpload u (some (.sealing job.target)) with session := some .complete } :
    Flash β δ).Matched hash stages target
  := by
  obtain ⟨rfl, holds⟩ := matched.landed_holds upload awaits
  obtain ⟨bank, current, -⟩ := matched.uploads u _ upload
  have counted : ∀ j ∈ job.manifest.parts, j ∈ insert i present := by
    simpa only [absentParts, filter_eq_nil_iff, decide_eq_true_eq, not_not] using complete
  have calls : ∀ v, ∀ up ∈ (f.setUpload u (some (.sealing job.target))).uploads v,
      v = u ∧ up = .sealing job.target ∨
        up ∈ f.uploads v ∧ (up = .manifest ∨ stages = true ∧ up.index.isSome) := by
    intro v up mem
    obtain ⟨same, ⟨⟩⟩ | ⟨ne, mem⟩ := mem_setUpload rfl mem
    · exact .inl ⟨same, rfl⟩
    · exact .inr ⟨mem, matched.landed_others upload awaits counted ne mem⟩
  have noParts : stages = false → (f.setUpload u (some (.sealing job.target))).NoParts := by
    intro device v up mem
    obtain ⟨-, rfl⟩ | ⟨-, rfl | ⟨staging, -⟩⟩ := calls v up mem
    · rfl
    · rfl
    · cases staging.symm.trans device
  constructor
  case session => nofun
  case uploads =>
    intro v up mem
    obtain ⟨-, rfl⟩ | ⟨mem, other⟩ := calls v up mem
    · exact ⟨bank, _, current, .inl ⟨fun j part => holds j (counted j part), noParts⟩⟩
    · refine (matched.uploads v up mem).mono rfl rfl id ?_
      rintro bank rfl
      obtain ⟨⟨⟩⟩ | ⟨-, ⟨⟩⟩ := other
  case unmixed => apply matched.unmixed
  case exclusive =>
    intro device v v' j up mem up' mem' index
    cases (noParts device v up mem).symm.trans index
  case uncounted => nofun
  case alone =>
    intro v m' bank kept settled
    obtain ⟨-, ⟨⟩⟩ | ⟨-, ⟨⟨⟩⟩ | ⟨-, ⟨⟩⟩⟩ := calls v _ settled
  case closing =>
    intro v bank sealing
    refine ⟨nofun, fun v' ne bank' sealing' => ?_⟩
    obtain ⟨rfl, -⟩ | ⟨-, ⟨⟨⟩⟩ | ⟨-, ⟨⟩⟩⟩ := calls v _ sealing
    obtain ⟨rfl, -⟩ | ⟨-, ⟨⟨⟩⟩ | ⟨-, ⟨⟩⟩⟩ := calls v' _ sealing'
    apply ne rfl

end

/-- A manifest settles the bank or opens the session, while nothing else is under way but
manifests. -/
theorem of_alone (others : ∀ v, v ≠ u → ∀ up ∈ g.uploads v, up = .manifest)
    (fits : ∀ up ∈ g.uploads u, g.Fits hash stages target up ∧ up.index = none ∧
      ∀ m present, g.session ≠ some (.awaitingPayload m present))
    (session : ∀ m present, g.session = some (.awaitingPayload m present) →
      g.current = some m ∧ ∀ i ∈ present, Holds hash (g.area target) m i)
    (unmixed : ∀ m ∈ g.current, m.Unmixed stages) :
  g.Matched hash stages target
  := by
  have calls : ∀ v, ∀ up ∈ g.uploads v, v = u ∨ up = .manifest :=
    fun v up mem => (Decidable.em (v = u)).imp_right fun ne => others v ne up mem
  have noParts : g.NoParts := by
    intro v up mem
    obtain rfl | rfl := calls v up mem
    · apply (fits up mem).2.1
    · rfl
  constructor
  case session => apply session
  case uploads =>
    intro v up mem
    obtain rfl | rfl := calls v up mem
    · apply (fits up mem).1
    · trivial
  case unmixed => apply unmixed
  case exclusive =>
    intro _ v v' i up mem up' mem' index
    cases (noParts v up mem).symm.trans index
  case uncounted =>
    intro _ m present _ v i up mem index
    cases (noParts v up mem).symm.trans index
  case alone =>
    intro v m bank kept settled
    obtain rfl | ⟨⟨⟩⟩ := calls v _ settled
    exact ⟨(fits _ settled).2.2, others⟩
  case closing =>
    intro v bank sealing
    obtain rfl | ⟨⟨⟩⟩ := calls v _ sealing
    exact ⟨(fits _ sealing).2.2, fun v' ne bank' sealing' => nomatch others v' ne _ sealing'⟩

section

variable (matched : f.Matched hash stages target)
include matched

/-- A manifest has settled the bank. -/
theorem settle (kept : List (ℕ × String))
    (closed : ∀ m' present, f.session ≠ some (.awaitingPayload m' present))
    (others : ∀ v, v ≠ u → ∀ up ∈ f.uploads v, up = .manifest) (unmixed : m.Unmixed stages)
    (session : g.session = f.session) (current : g.current = f.current)
    (uploads : g.uploads = (f.setUpload u (some (.settled m target kept))).uploads)
    (holds : ∀ k ∈ kept, Holds hash (g.area target) m k.1)
    (bare : m.integrated = true → g.Bare stages target) :
  g.Matched hash stages target
  := by
  rw [← session] at closed
  apply of_alone (u := u)
  · intro v ne up mem
    obtain ⟨same, -⟩ | ⟨-, mem⟩ := mem_setUpload uploads mem
    · apply absurd same ne
    · apply others v ne up mem
  · intro up mem
    obtain ⟨-, ⟨⟩⟩ | ⟨ne, -⟩ := mem_setUpload uploads mem
    · exact ⟨⟨rfl, unmixed, holds, bare⟩, rfl, closed⟩
    · apply absurd rfl ne
  · intro m' present awaits
    apply absurd awaits (closed m' present)
  · rw [current]
    apply matched.unmixed

/-- The session takes the manifest over: it awaits the parts that were not kept, or it is
complete. -/
theorem openSession {kept : List (ℕ × String)}
    (upload : f.uploads u = some (.settled m target kept))
    {next : Option (Upload δ)} (area : g.area = f.area) (current : g.current = some m)
    (uploads : g.uploads = (f.setUpload u next).uploads)
    (state : next = none ∧ g.session = some (.awaitingPayload m (kept.map (·.1)).toFinset) ∨
      next = some (.sealing target) ∧ g.session = some .complete ∧
        ((∀ i ∈ m.parts, i ∈ (kept.map (·.1)).toFinset) ∨ g.Bare stages target)) :
  g.Matched hash stages target
  := by
  obtain ⟨-, unmixed, holds, -⟩ := matched.uploads u _ upload
  obtain ⟨-, others⟩ := matched.alone u m target kept upload
  have counted : ∀ i ∈ (kept.map (·.1)).toFinset, Holds hash (g.area target) m i := by
    intro i mem
    obtain ⟨k, listed, rfl⟩ := mem_map.mp (mem_toFinset.mp mem)
    rw [area]
    apply holds k listed
  have calls : ∀ v, v ≠ u → ∀ up ∈ g.uploads v, up = .manifest := by
    intro v ne up mem
    obtain ⟨same, -⟩ | ⟨-, mem⟩ := mem_setUpload uploads mem
    · apply absurd same ne
    · apply others v ne up mem
  have own : ∀ up ∈ g.uploads u, up ∈ next := by
    intro up mem
    obtain ⟨-, mem⟩ | ⟨ne, -⟩ := mem_setUpload uploads mem
    · apply mem
    · apply absurd rfl ne
  apply of_alone calls
  · intro up mem
    obtain ⟨rfl, -⟩ | ⟨rfl, session, ready⟩ := state
    · cases own up mem
    · cases own up mem
      have noParts : g.NoParts := by
        intro v up' mem'
        by_cases same : v = u
        · subst same
          cases own up' mem'
          rfl
        · rw [calls v same up' mem']
          rfl
      refine ⟨⟨rfl, m, current, ?_⟩, rfl, ?_⟩
      · rcases ready with complete | bare
        · exact .inl ⟨fun i part => counted i (complete i part), fun _ => noParts⟩
        · exact .inr ⟨bare, noParts⟩
      · rw [session]
        nofun
  · intro m' present awaits
    obtain ⟨-, session⟩ | ⟨-, session, -⟩ := state
    · cases session.symm.trans awaits
      exact ⟨current, counted⟩
    · cases session.symm.trans awaits
  · rw [current]
    rintro _ ⟨⟩
    apply unmixed

/-- A call begins that brings a manifest, or a payload that the session awaits. -/
theorem register (up : Upload δ) (session : g.session = f.session) (current : g.current = f.current)
    (files : (g.area target).files = (f.area target).files)
    (streamed : g.streamedFiles = f.streamedFiles)
    (uploads : g.uploads = (f.setUpload u (some up)).uploads) (fits : g.Fits hash stages target up)
    (kind : up = .manifest ∨ up.index.isSome ∧ ∃ m present,
      f.session = some (.awaitingPayload m present))
    (free : stages = false → ∀ i, up.index = some i →
      (∀ v, ∀ up' ∈ f.uploads v, up'.index ≠ some i) ∧
      ∀ m present, f.session = some (.awaitingPayload m present) → i ∉ present) :
  g.Matched hash stages target
  := by
  apply matched.put up session current uploads fits
  case others =>
    intro v _ up' mem
    apply (matched.uploads v up' mem).mono files current (fun empty => streamed.trans empty)
    rintro bank rfl noParts v' up₁ member₁
    obtain ⟨-, ⟨⟩⟩ | ⟨-, member₁⟩ := mem_setUpload uploads member₁
    · obtain rfl | ⟨-, m, present, awaits⟩ := kind
      · rfl
      · apply absurd awaits ((matched.closing v bank mem).1 m present)
    · apply noParts v' up₁ member₁
  case holds =>
    intro m present awaits i mem
    apply ((matched.session m present awaits).2 i mem).congr files
  case kind =>
    refine kind.imp_right fun ⟨part, m, present, awaits⟩ => ⟨part, fun v m' bank kept settled => ?_⟩
    apply (matched.alone v m' bank kept settled).1 m present awaits
  case free =>
    intro device i index
    exact ⟨fun v _ => (free device i index).1 v, (free device i index).2⟩

/-- A file is added to the bank while it is not known to be empty. -/
theorem seed (quiet : ∀ u, ∀ up ∈ f.uploads u, up = .manifest ∨ up.index.isSome)
    {name : String} {content : β} (missing : (f.area target).files[name]? = none) :
  (f.setArea target { f.area target with
    files := (f.area target).files.insert name content }).Matched hash stages target
  := by
  have keeps : ∀ m i, Holds hash (f.area target) m i → Holds hash ((f.setArea target
      { f.area target with files := (f.area target).files.insert name content }).area target) m
        i := by
    intro m i holds
    rw [setArea_area]
    apply holds.seed rfl missing
  constructor
  case session =>
    intro m present awaits
    obtain ⟨current, holds⟩ := matched.session m present awaits
    exact ⟨current, fun i mem => keeps m i (holds i mem)⟩
  case uploads =>
    intro u up mem
    have known := matched.uploads u up mem
    cases up with
    | manifest => trivial
    | payload => apply known
    | landed _ i =>
      obtain ⟨bank, current, holds⟩ := known
      exact ⟨bank, current, keeps _ i holds⟩
    | _ => obtain ⟨⟨⟩⟩ | ⟨⟨⟩⟩ := quiet u _ mem
  case unmixed => apply matched.unmixed
  case exclusive => apply matched.exclusive
  case uncounted => apply matched.uncounted
  case alone => apply matched.alone
  case closing => apply matched.closing

end

end Flash.Matched

end Flashes

/-! ### The calls of a session -/

section Calls

variable {σ : Type} (hash : β → δ) (b : FlashBackend) (target : Bank)

/-- The update is in order, the target bank is the same all along, and no bank was signed. -/
structure Staging (d : Desk σ β δ) : Prop where
  matched : d.flash.Matched hash b.stages target
  aims : b.provider.targetBank d.here.shared = target
  unsigned : ∀ bank, (bank, .sign) ∉ d.touched

/-- The update is in order, and if a bank was signed, it is the target bank and has all parts of the
manifest. -/
structure Sealed (d : Desk σ β δ) : Prop where
  matched : d.flash.Matched hash b.stages target
  aims : b.provider.targetBank d.here.shared = target
  signed : ∀ bank, (bank, .sign) ∈ d.touched → bank = target ∧
    ∃ m, d.flash.current = some m ∧ ∀ i ∈ m.parts, Holds hash (d.flash.area target) m i

variable {hash b target} {d : Desk σ β δ}

namespace Staging

theorem sealed (staging : Staging hash b target d) :
  Sealed hash b target d
  := ⟨staging.matched, staging.aims, fun bank signed => absurd signed (staging.unsigned bank)⟩

section

variable (staging : Staging hash b target d)
include staging

theorem withFlash (matched : f.Matched hash b.stages target) :
  Staging hash b target { d with flash := f }
  := ⟨matched, staging.aims, staging.unsigned⟩

theorem unsigned_append (how : Touch) (kind : how ≠ .sign) (bank bank' : Bank) :
  (bank', .sign) ∉ d.touched ++ [(bank, how)]
  := by
  intro signed
  rcases mem_append.mp signed with earlier | last
  · apply staging.unsigned bank' earlier
  · cases mem_singleton.mp last
    apply kind rfl

/-- A bank was written to, and then the update was found in order again. -/
theorem touch (matched : f.Matched hash b.stages target) (bank : Bank) (how : Touch)
    (kind : how ≠ .sign) :
  Staging hash b target { d with flash := f, touched := d.touched ++ [(bank, how)] }
  := ⟨matched, staging.aims, staging.unsigned_append how kind bank⟩

end

end Staging

/-- The bank has all parts of the manifest, and no other call takes it for empty. -/
structure Filled (hash : β → δ) (b : FlashBackend) (target : Bank) (d : Desk σ β δ) : Prop extends
    Staging hash b target d where
  quiet : ∀ u, ∀ up ∈ d.flash.uploads u, up = .manifest ∨ up.index.isSome
  full : ∃ m, d.flash.current = some m ∧ ∀ i ∈ m.parts, Holds hash (d.flash.area target) m i

namespace Filled

theorem seed (filled : Filled hash b target d) {name : String} (content : β)
    (missing : (d.flash.area target).files[name]? = none) :
  Filled hash b target { d with
    flash := d.flash.setArea target
      { d.flash.area target with files := (d.flash.area target).files.insert name content }
    touched := d.touched ++ [(target, .payload)] }
  := by
  refine ⟨filled.touch (filled.matched.seed filled.quiet missing) target .payload nofun,
    filled.quiet, ?_⟩
  obtain ⟨m, current, holds⟩ := filled.full
  refine ⟨m, current, fun i part => ?_⟩
  rw [setArea_area]
  apply (holds i part).seed rfl missing

theorem sign (filled : Filled hash b target d) (names : List String) :
  Sealed hash b target { d with
    flash := d.flash.setArea target ((d.flash.area target).sign hash names)
    touched := d.touched ++ [(target, .sign)] }
  where
  matched := filled.matched.setArea rfl
  aims := filled.aims
  signed bank signed := by
    obtain ⟨m, current, holds⟩ := filled.full
    rcases mem_append.mp signed with earlier | last
    · apply absurd earlier (filled.unsigned bank)
    · cases mem_singleton.mp last
      refine ⟨rfl, m, current, fun i part => ?_⟩
      rw [setArea_area]
      apply (holds i part).congr rfl

end Filled

namespace FlashBackend

variable {w : FlashWorld σ} {parts : List ℕ} {k : ℕ × String}

/-- A bank that has all parts is signed. -/
theorem ivdSignStagedBank_filled (filled : Filled hash b target d) :
  Yields (b.ivdSignStagedBank hash w target) d fun _ => Sealed hash b target
  := by
  rw [ivdSignStagedBank]
  split
  · refine yields_bind (Q := fun _ => Filled hash b target) (yields_get_bind ?_)
      (fun _ d' filled' => yields_get_bind ?_) (fun _ _ failed => failed.sealed)
        fun _ failed => failed.sealed
    · dsimp only
      split
      · apply filled
      · exact seedMissingFiles_keeps (fun _ _ content missing filled' =>
          filled'.seed content missing) filled
    · split
      · apply filled'.sign
      · apply filled'.sealed
  · refine yields_get_bind ?_
    split
    · apply filled.sealed
    · split
      · split
        · apply filled.sign
        · apply filled.sealed
      · apply filled.sealed

/-- A bank with nothing in it is not signed. -/
theorem ivdSignStagedBank_bare (staging : Staging hash b target d)
    (bare : d.flash.Bare b.stages target) :
  Yields (b.ivdSignStagedBank hash w target) d fun _ => Sealed hash b target
  := by
  have undeclared : declaredBankParts d = [] := by
    rw [declaredBankParts, bare.streamed, ite_self]
  rw [ivdSignStagedBank]
  split
  next stages =>
    refine yields_bind (Q := fun _ d' => d' = d) (yields_get_bind ?_) ?_ ?_ ?_
    · dsimp only
      rw [undeclared]
      split <;> rfl
    · rintro _ _ rfl
      refine yields_get_bind ?_
      rw [bare.empty stages, if_neg (by simp)]
      apply staging.sealed
    · rintro _ _ rfl
      apply staging.sealed
    · rintro _ rfl
      apply staging.sealed
  next =>
    refine yields_get_bind ?_
    rw [undeclared, if_pos rfl]
    apply staging.sealed

variable [DecidableEq δ]

/-- A part that is kept has its digest in the bank. -/
theorem keptParts_verified (mem : k ∈ keptParts hash m parts area) :
  m.partName k.1 = some k.2 ∧
    ∃ content, area.files[k.2]? = some content ∧ m.imageDigest k.1 = some (hash content)
  := by
  refine foldlRecOn (motive := fun kept => ∀ k ∈ kept, m.partName k.1 = some k.2 ∧
    ∃ content, area.files[k.2]? = some content ∧ m.imageDigest k.1 = some (hash content))
      _ _ nofun ?_ k
    mem
  intro kept verified staged _
  split
  next i found =>
    split
    next verify =>
      intro k mem
      rcases mem_append.mp mem with earlier | last
      · apply verified k earlier
      · cases mem_singleton.mp last
        have declared := find?_some found
        simp only [decide_eq_true_eq] at declared
        rw [verifyPayload, decide_eq_true_eq, map_eq_some_iff] at verify
        obtain ⟨content, here, same⟩ := verify
        exact ⟨declared.2.1, content, here, declared.2.2.trans (congrArg some same.symm)⟩
    next => apply verified
  next => apply verified

theorem keptParts_nil :
  keptParts hash m [] area = []
  := by
  refine foldlRecOn (motive := fun kept => kept = []) _ _ rfl ?_
  intro kept empty staged _
  apply empty

/-- What was kept is in the bank after the rest has gone. -/
theorem keptParts_holds {area' : BankArea β δ} (stages singleBank : Bool)
    (files : area'.files =
      (area.prune stages singleBank ((keptParts hash m parts area).map (·.2))).files)
    (mem : k ∈ keptParts hash m parts area) :
  Holds hash area' m k.1
  := by
  obtain ⟨named, content, found, declared⟩ := keptParts_verified mem
  refine ⟨k.2, content, named, ?_, declared⟩
  rw [files, prune]
  split
  · have keep : k.2 ∈ (keptParts hash m parts area).map (·.2) := mem_map_of_mem mem
    rw [Std.ExtTreeMap.getElem?_filter']
    simp [found, keep]
  · apply found

end FlashBackend

/-- The session takes uploads. -/
def FlashSessionState.isOpen : FlashSessionState δ → Bool
  | complete => false
  | _ => true

/-- The calls that stage an update: sessions are started and aborted, and uploads of manifests and
payloads go on. An envelope outside of a session is not among them, nor is the end of the update. -/
def FlashOp.stages (f : Flash β δ) : FlashOp β δ → Bool
  | receivePackagePart _ => f.session.any (·.isOpen)
  | endLegacy .. | finalizeFlash | reconcilePart .. | endReconcile _ => false
  | _ => true

/-- The calls do not cross. A manifest settles the bank while no session awaits payloads and nothing
else is under way but manifests; its parts can be told apart by their names, and one that comes with
its payloads finds no files in the transfer. Where parts are written in place, a payload begins for
a part that no other upload is about. -/
def Uncrossed (stages : Bool) (f : Flash β δ) : FlashOp β δ → Prop
  | .settleManifest u m => (∀ m' present, f.session ≠ some (.awaitingPayload m' present)) ∧
      (∀ v, v ≠ u → ∀ up ∈ f.uploads v, up = .manifest) ∧ m.Unmixed stages ∧
      (m.integrated = true → f.streamedFiles = [])
  | .receivePackagePart part => stages = false →
      ∀ m present, f.session = some (.awaitingPayload m present) →
        ∀ i, (m.addressed part).or (m.absentParts present).head? = some i →
          ∀ u, ∀ up ∈ f.uploads u, up.index ≠ some i
  | _ => True

/-- An upload that is about to seal the bank finds all parts in it, or nothing at all. -/
theorem Staging.seals (staging : Staging hash b target d) {u : ℕ} {bank : Bank}
    (upload : d.flash.uploads u = some (.sealing bank)) (w : FlashWorld σ) :
  Yields (b.ivdSignStagedBank hash w bank) { d with flash := d.flash.setUpload u none } fun _ =>
    Sealed hash b target
  := by
  obtain ⟨rfl, m, current, ready⟩ := staging.matched.uploads u _ upload
  have dropped := staging.withFlash (staging.matched.dropUpload u)
  obtain ⟨holds, -⟩ | ⟨bare, -⟩ := ready
  · apply FlashBackend.ivdSignStagedBank_filled
    refine ⟨dropped, ?_, m, current, holds⟩
    intro v up mem
    obtain ⟨-, ⟨⟩⟩ | ⟨ne, mem⟩ := mem_setUpload rfl mem
    have known := staging.matched.uploads v up mem
    cases up with
    | manifest => exact .inl rfl
    | payload | landed => exact .inr rfl
    | settled m' bank' kept =>
      cases (staging.matched.alone v m' bank' kept mem).2 u ne.symm _ upload
    | sealing bank' => apply absurd mem ((staging.matched.closing u bank upload).2 v ne bank')
    | legacy | reconciling => apply known.elim
  · apply FlashBackend.ivdSignStagedBank_bare dropped ⟨bare.streamed, bare.empty⟩

variable [DecidableEq δ]

/-- What a call makes of the update is in order as long as the calls do not cross, and no bank is
signed with it. -/
theorem FlashChange.matched (staging : Staging hash b target d) (stages : op.stages d.flash = true)
    (uncrossed : Uncrossed b.stages d.flash op) {written : List (Bank × Touch)}
    (change : FlashChange b hash d op f written) :
  f.Matched hash b.stages target ∧ ∀ bank, (bank, .sign) ∉ written
  := by
  have matched := staging.matched
  have unsigned {bank : Bank} {how : Touch} (kind : how ≠ .sign) (bank' : Bank) :
      (bank', .sign) ∉ [(bank, how)] := by
    intro signed
    cases mem_singleton.mp signed
    apply kind rfl
  cases change with
  | stays => exact ⟨matched, nofun⟩
  | drops _ u => exact ⟨matched.dropUpload u, nofun⟩
  | clears => exact ⟨matched.cleared, nofun⟩
  | starts => exact ⟨matched.started, nofun⟩
  | manifest =>
    exact ⟨matched.register .manifest rfl rfl rfl rfl rfl trivial (.inl rfl) nofun, nofun⟩
  | @payload _ m present i _ _ awaits absent next aims files =>
    have owed : i ∈ m.parts ∧ i ∉ present := by
      simpa only [absentParts, mem_filter, decide_eq_true_eq] using next_absent absent next
    have manifest := (matched.session _ present awaits).1
    refine ⟨matched.register (.payload _) rfl rfl (files target) rfl rfl ?_ ?_ ?_, nofun⟩
    · exact ⟨aims.target.symm.trans staging.aims, manifest, fun _ => owed.1⟩
    · exact .inr ⟨rfl, m, present, awaits⟩
    · rintro device _ ⟨⟩
      refine ⟨uncrossed device m present awaits i next, fun m' present' awaits' => ?_⟩
      cases awaits.symm.trans awaits'
      apply owed.2
  | legacy closed =>
    rw [FlashOp.stages] at stages
    rcases closed with none | complete
    · rw [none] at stages
      cases stages
    · rw [complete] at stages
      cases stages
  | @settles u m target' kept _ _ aims keeps files =>
    obtain rfl : target' = target := aims.target.symm.trans staging.aims
    obtain ⟨closed, others, unmixed, fresh⟩ := uncrossed
    refine ⟨matched.settle kept closed others unmixed rfl rfl ?_ ?_ ?_, unsigned nofun⟩
    · exact (congrArg uploads (setUpload_setUpload d.flash u none (some (.settled m target' kept)))
        :)
    · intro k mem
      subst keeps
      refine FlashBackend.keptParts_holds b.stages b.singleBank ?_ mem
      dsimp only [setUpload]
      rw [setArea_area]
      exact files
    · intro integrated
      refine ⟨fresh integrated, fun stages => ?_⟩
      rw [keeps, if_pos integrated, FlashBackend.keptParts_nil, prune, if_pos stages] at files
      dsimp only [setUpload]
      rw [setArea_area, files]
      ext
      simp
  | opens _ upload area current uploads state =>
    obtain ⟨rfl, -, -, bare⟩ := matched.uploads _ _ upload
    refine ⟨matched.openSession upload area current uploads ?_, nofun⟩
    refine state.imp_right fun ⟨sealing, complete, ready⟩ => ⟨sealing, complete, ?_⟩
    rcases ready with counted | ⟨integrated, streamed⟩
    · left
      simpa only [absentParts, filter_eq_nil_iff, decide_eq_true_eq, not_not] using counted
    · right
      exact ⟨streamed.trans (bare integrated).streamed, area ▸ (bare integrated).empty⟩
  | @writes _ job _ name' _ upload device named =>
    -- Bytes that are written in place leave the parts of other payloads alone.
    obtain ⟨rfl, manifest, next⟩ := matched.uploads _ _ upload
    refine ⟨matched.land (.payload job) upload rfl rfl ?_
      ⟨rfl, manifest, next⟩ rfl (fun _ => rfl) ?_, unsigned nofun⟩
    · funext v
      dsimp only [Flash.setArea, setUpload]
      split
      next same => rw [same, upload]
      next => rfl
    · intro j other holds
      rw [setArea_area]
      refine holds.insert rfl fun same => ?_
      have unmixed := matched.unmixed job.manifest manifest j holds.mem_parts job.next
        (next device) name' same named
      apply absurd (unmixed.2 device) (other device)
  | pours upload whole =>
    have known := matched.uploads _ _ upload
    obtain rfl | ⟨_, _, _, rfl⟩ := whole <;> exact known.elim
  | discards => exact ⟨(matched.dropUpload _).setArea rfl, nofun⟩
  | @lands _ i job name _ _ _ lands =>
    obtain ⟨upload, named, declared, session, current, -, uploads, place⟩ := lands
    obtain ⟨rfl, manifest, -⟩ := matched.uploads _ _ upload
    have lands := matched.land (g := f) (.landed job i) (i := i) upload session current uploads
    obtain ⟨staged, rfl, files⟩ | ⟨rfl, rfl, files, verified⟩ := place
    · refine ⟨lands ⟨rfl, current.trans manifest, .of_insert named declared files⟩
        rfl (fun device => ?_) ?_, unsigned nofun⟩
      · cases staged.symm.trans device
      · -- A part with the same name has the same digest.
        intro j _ kept
        refine kept.insert files fun same => ?_
        rw [(matched.unmixed job.manifest manifest j kept.mem_parts i (mem_parts declared) name
          same named).1]
        apply declared
    · rw [verifyPayload, decide_eq_true_eq, map_eq_some_iff] at verified
      obtain ⟨found, here, same⟩ := verified
      have holds : Holds hash (d.flash.area job.target) job.manifest job.next :=
        ⟨name, found, named, here, declared.trans (congrArg some same.symm)⟩
      exact ⟨lands ⟨rfl, current.trans manifest, holds.congr files⟩ rfl (fun _ => rfl)
        fun j _ kept => kept.congr files, nofun⟩
  | counts upload awaits => exact ⟨matched.count upload awaits, nofun⟩
  | completes upload awaits complete => exact ⟨matched.finish upload awaits complete, nofun⟩
  | disables | reconciles | fetches | refuses => cases stages

theorem FlashOutcome.sealed {w : FlashWorld σ} {d' : Desk σ β δ}
    (outcome : FlashOutcome b hash d w op d')
    (staging : Staging hash b target d) (stages : op.stages d.flash = true)
    (uncrossed : Uncrossed b.stages d.flash op) :
  Sealed hash b target d'
  := by
  cases outcome with
  | @changes here _ _ _ tends change writes =>
    obtain ⟨matched, unsigned⟩ := change.matched staging stages uncrossed
    refine Staging.sealed ⟨matched, ?_, ?_⟩
    · obtain ⟨⟨nv, running⟩, memory⟩ := here
      obtain rfl := tends.running
      rcases tends.nv with rfl | ⟨session, rfl⟩ <;> exact staging.aims
    · subst writes
      intro bank signed
      rcases mem_append.mp signed with earlier | last
      · apply staging.unsigned bank earlier
      · apply unsigned bank last
  | seals _ upload => exact staging.seals upload w

end Calls

/-! ### Sessions -/

section Sessions

variable {σ : Type} [DecidableEq δ] (κ : Signing) (crc : List UInt8 → UInt32) (hash : β → δ)
  (b : FlashBackend)

/-- What `op` makes of the update of a component. What was written to the banks is that of the last
call. -/
def StagingStep (x : Desk σ β δ) (op : FlashOp β δ) (y : Desk σ β δ) : Prop :=
  ∃ w answer, op.run κ crc hash w b { x with touched := [] } = (answer, y) ∧ answer ≠ .stopped

/-- Calls that stage updates of a component, each of them allowed in its state. -/
def StagingRun (allowed : Flash β δ → FlashOp β δ → Prop)
    (start : Desk σ β δ) : Desk σ β δ → Prop :=
  Reachable (· = start) fun x y =>
    ∃ op, op.stages x.flash = true ∧ allowed x.flash op ∧ StagingStep κ crc hash b x op y

variable {κ crc hash b} {target : Bank} {x y : Desk σ β δ}

theorem StagingStep.sealed (step : StagingStep κ crc hash b x op y) (known : Sealed hash b target x)
    (stages : op.stages x.flash = true) (uncrossed : Uncrossed b.stages x.flash op) :
  Sealed hash b target y
  := by
  obtain ⟨w, answer, call, -⟩ := step
  have staging : Staging hash b target { x with touched := [] } :=
    ⟨known.matched, known.aims, nofun⟩
  have unapplied : ¬op.Applies b { x with touched := [] } := by
    rintro (_ | _) <;> cases stages
  exact ((FlashOp.outcome unapplied).of_run call).sealed staging stages uncrossed

/-- However the uploads of a component come in between each other, as long as they do not cross, the
parts that the session counts are those of its manifest, and a bank is only sealed when it has all
of them. -/
theorem staged_parts_match {start : Desk σ β δ} (idle : start.flash.session = none)
    (unmet : start.flash.current = none) (free : ∀ u, start.flash.uploads u = none)
    (untouched : start.touched = []) (run : StagingRun κ crc hash b (Uncrossed b.stages) start x) :
  (∀ m present, x.flash.session = some (.awaitingPayload m present) → x.flash.current = some m ∧
    ∀ i ∈ present, Holds hash (x.flash.area (b.provider.targetBank x.here.shared)) m i) ∧
  ∀ bank, (bank, .sign) ∈ x.touched → bank = b.provider.targetBank x.here.shared ∧
    ∃ m, x.flash.current = some m ∧ ∀ i ∈ m.parts, Holds hash (x.flash.area bank) m i
  := by
  have sound : Sealed hash b (b.provider.targetBank start.here.shared) x := by
    apply run.invariant (P := Sealed hash b (b.provider.targetBank start.here.shared))
    · rintro _ rfl
      refine ⟨.of_alone (u := 0) ?_ ?_ ?_ ?_, rfl, ?_⟩
      · intro v _ up mem
        cases (free v).symm.trans mem
      · intro up mem
        cases (free 0).symm.trans mem
      · intro m present awaits
        cases idle.symm.trans awaits
      · rw [unmet]
        nofun
      · rw [untouched]
        nofun
    · rintro x y known ⟨op, stages, uncrossed, step⟩
      apply step.sealed known stages uncrossed
  constructor
  · intro m present awaits
    rw [sound.aims]
    apply sound.matched.session m present awaits
  · intro bank signed
    obtain ⟨rfl, m, current, holds⟩ := sound.signed bank signed
    exact ⟨sound.aims.symm, m, current, holds⟩

end Sessions

/-! ### A machine whose kernel is staged -/

namespace TwoMachines

/-- The first machine, whose boot state is in NV alone; its banks are directories, or devices. -/
def bench (stages : Bool) : FlashBackend where
  provider := { vm1 with selector := false }
  stages := stages

def unstaged : Desk Store ℕ ℕ where
  here := { shared := start, memory := {} }
  flash := { area := fun _ => {} }

/-- A manifest with one part. The digest of a content is the content itself. -/
def kernelOf (digest : ℕ) : Manifest ℕ where
  components := [{ componentId := some ["vm1", "kernel"], imageDigest := some digest }]

theorem kernelOf_unmixed (digest : ℕ) (stages : Bool) :
  (kernelOf digest).Unmixed stages
  := by
  intro i mem j mem' name _ _
  have only : (kernelOf digest).parts = [0] := rfl
  rw [only, mem_singleton] at mem mem'
  subst mem mem'
  exact ⟨rfl, fun _ => rfl⟩

def staged₁ (b : FlashBackend) (x : Desk Store ℕ ℕ) (op : FlashOp ℕ ℕ) :
    Ending BackendError Unit × Desk Store ℕ ℕ :=
  op.run stubSigner (fun _ => 0) id { env := working } b { x with touched := [] }

def stage (b : FlashBackend) (x : Desk Store ℕ ℕ) : List (FlashOp ℕ ℕ) → Desk Store ℕ ℕ
  | [] => x
  | op :: rest => stage b (staged₁ b x op).2 rest

def stageable (b : FlashBackend) (x : Desk Store ℕ ℕ) : List (FlashOp ℕ ℕ) → Bool
  | [] => true
  | op :: rest => op.stages x.flash && (staged₁ b x op).1 ≠ .stopped &&
      stageable b (staged₁ b x op).2 rest

theorem run_stage {b : FlashBackend} {allowed : Flash ℕ ℕ → FlashOp ℕ ℕ → Prop}
    {x y : Desk Store ℕ ℕ}
    (run : StagingRun stubSigner (fun _ => 0) id b allowed y x) {ops : List (FlashOp ℕ ℕ)}
    (admitted : ∀ f, ∀ op ∈ ops, allowed f op) (stages : stageable b x ops = true) :
  StagingRun stubSigner (fun _ => 0) id b allowed y (stage b x ops)
  := by
  induction ops generalizing x with
  | nil => apply run
  | cons op _ ih =>
    simp only [stageable, Bool.and_eq_true, decide_eq_true_eq] at stages
    obtain ⟨⟨first, returned⟩, later⟩ := stages
    refine ih (run.step ⟨op, first, admitted _ op mem_cons_self, ?_⟩) ?_ later
    · exact ⟨{ env := working }, _, rfl, returned⟩
    · intro f op mem
      apply admitted f op (mem_cons_of_mem _ mem)

end TwoMachines

open TwoMachines in
/-- A payload is on its way when its session is aborted and another one is started. It is then
counted as the part of the new manifest, and the bank is sealed with it. -/
theorem late_payload_sealed :
  ∃ x, StagingRun stubSigner (fun _ => 0) id (bench false) (fun _ _ => True) unstaged x ∧
    (Bank.B, Touch.sign) ∈ x.touched ∧ ∃ m ∈ x.flash.current, ∃ i ∈ m.parts,
      ¬Holds id (x.flash.area .B) m i
  := by
  let ops : List (FlashOp ℕ ℕ) :=
    [.startFlash, .receivePackagePart none, .settleManifest 0 (kernelOf 7),
    .openSession 0, .receivePackagePart none, .writePart 1 "" 7, .abortSession, .startFlash,
    .receivePackagePart none, .settleManifest 2 (kernelOf 8), .openSession 2,
    .landPart 1 7, .enterPart 1, .sealUpload 1]
  have left : (Bank.B, Touch.sign) ∈ (stage (bench false) unstaged ops).touched ∧
      ((stage (bench false) unstaged ops).flash.current.map fun m =>
        (m.parts, m.partName 0, m.imageDigest 0)) = some ([0], some "kernel", some 8) ∧
      ((stage (bench false) unstaged ops).flash.area .B).files["kernel"]? = some 7 := by
    decide +kernel
  obtain ⟨signed, manifest, kernel⟩ := left
  obtain ⟨m, current, same⟩ := Option.map_eq_some_iff.mp manifest
  simp only [Prod.mk.injEq] at same
  obtain ⟨parts, named, declared⟩ := same
  refine ⟨stage (bench false) unstaged ops, ?_, signed, m, current, 0, ?_, ?_⟩
  · exact run_stage (.init rfl) (fun _ _ _ => trivial) (by decide +kernel)
  · rw [parts]
    apply mem_singleton_self
  · rintro ⟨name, content, named', found, declared'⟩
    cases named.symm.trans named'
    cases kernel.symm.trans found
    cases declared.symm.trans declared'

open TwoMachines in
/-- A kernel is staged, and the bank is sealed with it. -/
theorem staged_kernel_matches :
  ∃ x, StagingRun stubSigner (fun _ => 0) id (bench true) (Uncrossed true) unstaged x ∧
    (Bank.B, Touch.sign) ∈ x.touched ∧
    ∃ m, x.flash.current = some m ∧ ∀ i ∈ m.parts, Holds id (x.flash.area .B) m i
  := by
  let start : List (FlashOp ℕ ℕ) := [.startFlash, .receivePackagePart none]
  let payload : List (FlashOp ℕ ℕ) := [.openSession 0, .receivePackagePart (some "kernel"),
    .landPart 1 7, .enterPart 1, .sealUpload 1]
  let settled :=
    (staged₁ (bench true) (stage (bench true) unstaged start) (.settleManifest 0 (kernelOf 7))).2
  have begun : StagingRun stubSigner (fun _ => 0) id (bench true) (Uncrossed true) unstaged
      (stage (bench true) unstaged start) := by
    refine run_stage (.init rfl) ?_ (by decide +kernel)
    simp [start, Uncrossed]
  have settles : StagingRun stubSigner (fun _ => 0) id (bench true)
    (Uncrossed true) unstaged settled := by
    refine begun.step ⟨.settleManifest 0 (kernelOf 7), rfl,
      ⟨nofun, ?_, kernelOf_unmixed 7 true, nofun⟩, ?_⟩
    · intro v ne up mem
      have uploads : (stage (bench true) unstaged start).flash.uploads v =
        if v = 0 then some .manifest else none := rfl
      rw [uploads, if_neg ne] at mem
      cases mem
    · exact ⟨{ env := working }, _, rfl, by decide +kernel⟩
  have run : StagingRun stubSigner (fun _ => 0) id (bench true) (Uncrossed true) unstaged
      (stage (bench true) settled payload) := by
    refine run_stage settles ?_ (by decide +kernel)
    simp [payload, Uncrossed]
  have signed : (Bank.B, Touch.sign) ∈ (stage (bench true) settled payload).touched := by
    decide +kernel
  obtain ⟨-, m, current, holds⟩ := (staged_parts_match rfl rfl (fun _ => rfl) rfl run).2 .B signed
  exact ⟨_, run, signed, m, current, holds⟩

end ComponentMgr
