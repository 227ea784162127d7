import SpellServer.Dictionary.Files

/-!
# The two files of a pair

Calls of `ensure_dictionary` for one language take turns under the load lock,
and any action of a call can fail and end it.  Each file is replaced as a whole,
the pair is not: a call that fails between its two renames leaves its own `.aff`
beside an older `.dic`.
-/

namespace SpellServer

open Library

structure EnsureCall where
  number : ℕ
  sourceUrl : Option String
  frame : EnsureFrame

/-- The directory of a language over time.  `affBy` and `dicBy` are the calls
that have written the files: a ghost, the source never keeps them. -/
structure DirWorld where
  dir : LanguageDir
  clock : ℕ
  call : Option EnsureCall
  calls : ℕ
  affBy : Option ℕ
  dicBy : Option ℕ

inductive DirEvent where
  | call (sourceUrl : Option String)
  | act (input : DiskInput)

def EnsureFrame.replacesAff : EnsureFrame → Bool
  | .renameAff _ _ => true
  | _ => false

def EnsureFrame.replacesDic : EnsureFrame → Bool
  | .renameDic _ => true
  | _ => false

/-- The call has replaced the `.aff` file and has still to replace the other. -/
def EnsureFrame.betweenRenames : EnsureFrame → Bool
  | .writeDic _ | .renameDic _ => true
  | _ => false

/-- The call is about to look whether the pair is fresh. -/
def EnsureFrame.checks : EnsureFrame → Bool
  | .isFresh => true
  | _ => false

namespace DirWorld

def empty : DirWorld :=
  { dir := { aff := none, dic := none }
    clock := 0
    call := none
    calls := 0
    affBy := none
    dicBy := none }

/-- The world after the running call has taken an action. -/
def acted (world : DirWorld) (call : EnsureCall) (input : DiskInput) (outcome : EnsureOutcome) :
    DirWorld :=
  { dir := outcome.dir
    clock := input.now
    call := outcome.next.frame?.map fun frame => { call with frame }
    calls := world.calls
    affBy :=
      if call.frame.replacesAff && input.failure.isNone then some call.number else world.affBy
    dicBy :=
      if call.frame.replacesDic && input.failure.isNone then some call.number else world.dicBy }

def step (manager : DictionaryManager) (language : String) (world : DirWorld) :
    DirEvent → Option DirWorld
  | .call sourceUrl =>
      if world.call.isNone then
        some
          { world with
            call := some { number := world.calls, sourceUrl, frame := .isFresh }
            calls := world.calls + 1 }
      else none
  | .act input =>
      if world.clock ≤ input.now then
        world.call.map fun call =>
          world.acted call input
            (call.frame.exec manager language call.sourceUrl input world.dir)
      else none

/-- The `.dic` file is missing or too old to be served. -/
def DicStale (manager : DictionaryManager) (world : DirWorld) : Prop :=
  ∀ dic, world.dir.dic = some dic → manager.isYoung world.clock dic = false

/-- The running call is about to find the pair fresh and to serve it. -/
def serves (manager : DictionaryManager) (input : DiskInput) (world : DirWorld) : Bool :=
  world.call.any (fun call => call.frame.checks) && decide (world.clock ≤ input.now) &&
    manager.isFresh input world.dir

end DirWorld

/-- A call fails between its renames only when the `.dic` file it leaves behind
is missing or too old to be served. -/
def dicLeftStale (manager : DictionaryManager) (world : DirWorld) : DirEvent → Bool
  | .call _ => true
  | .act input =>
      !world.call.any (fun call => call.frame.betweenRenames) || input.failure.isNone ||
        !world.dir.dic.any (manager.isYoung input.now)

structure PairTracked (manager : DictionaryManager) (world : DirWorld) : Prop where
  written : world.dir.aff.isSome = true → world.affBy.isSome = true
  paired : (∀ call, world.call = some call → call.frame.betweenRenames = false) →
    world.affBy = world.dicBy ∨ world.DicStale manager
  replacing : ∀ {call}, world.call = some call → call.frame.betweenRenames = true →
    world.affBy = some call.number

namespace PairTracked

variable {manager : DictionaryManager} {language : String} {world next : DirWorld}
  {call : EnsureCall} {input : DiskInput}

theorem empty : PairTracked manager DirWorld.empty := by
  constructor
  · intro present
    cases present
  · intro _
    exact Or.inl rfl
  · intro call running
    cases running

private theorem stale_later (order : world.clock ≤ input.now) (stale : world.DicStale manager)
    {dic : CachedFile} (found : world.dir.dic = some dic) :
    manager.isYoung input.now dic = false := by
  apply Bool.eq_false_iff.mpr
  intro young
  have before := DictionaryManager.isYoung_earlier order young
  rw [stale dic found] at before
  cases before

/-- An action outside the renames. -/
private theorem of_quiet (tracked : PairTracked manager world) (order : world.clock ≤ input.now)
    (running : world.call = some call) (before : call.frame.betweenRenames = false)
    {outcome : EnsureOutcome} (dir : outcome.dir = world.dir)
    (after : ∀ frame, outcome.next = .running frame → frame.betweenRenames = false)
    (affBy : (world.acted call input outcome).affBy = world.affBy)
    (dicBy : (world.acted call input outcome).dicBy = world.dicBy) :
    PairTracked manager (world.acted call input outcome) := by
  have sameDir : (world.acted call input outcome).dir = world.dir := dir
  have idle : ∀ other, world.call = some other → other.frame.betweenRenames = false := by
    intro other same
    cases running.symm.trans same
    exact before
  constructor
  · rw [sameDir, affBy]
    exact tracked.written
  · intro _
    rw [affBy, dicBy]
    refine (tracked.paired idle).imp_right ?_
    intro stale dic found
    rw [sameDir] at found
    exact stale_later order stale found
  · intro later seen between
    obtain ⟨frame, goes, rfl⟩ := Option.map_eq_some_iff.mp seen
    cases moved : outcome.next with
    | returned result =>
        rw [moved] at goes
        cases goes
    | running next =>
        rw [moved] at goes
        cases goes
        rw [after _ moved] at between
        cases between

/-- A call between its renames ends with an error. -/
private theorem of_failure (tracked : PairTracked manager world)
    (running : world.call = some call) (between : call.frame.betweenRenames = true)
    {error : DictionaryError} {source : String} (failed : input.failure = some source)
    (left : dicLeftStale manager world (.act input) = true) :
    PairTracked manager (world.acted call input (.finish world.dir (.error error))) := by
  have stale : world.dir.dic.any (manager.isYoung input.now) = false := by
    simpa [dicLeftStale, running, between, failed] using left
  have affBy : (world.acted call input (.finish world.dir (.error error))).affBy =
      world.affBy := by
    simp [DirWorld.acted, failed]
  constructor
  · rw [affBy]
    exact tracked.written
  · intro _
    right
    intro dic found
    have present : world.dir.dic = some dic := found
    rw [present, Option.any_some] at stale
    exact stale
  · intro later seen
    cases seen

theorem of_act (tracked : PairTracked manager world) (order : world.clock ≤ input.now)
    (running : world.call = some call) (left : dicLeftStale manager world (.act input) = true) :
    PairTracked manager (world.acted call input
      (call.frame.exec manager language call.sourceUrl input world.dir)) := by
  have replacing := tracked.replacing running
  obtain ⟨number, sourceUrl, frame⟩ := call
  cases frame with
  | isFresh =>
      simp only [EnsureFrame.exec]
      split
      · exact tracked.of_quiet order running rfl rfl (fun _ goes => by cases goes) rfl rfl
      · exact tracked.of_quiet order running rfl rfl (fun _ goes => by cases goes; rfl) rfl rfl
  | createDirAll =>
      simp only [EnsureFrame.exec]
      split
      · exact tracked.of_quiet order running rfl rfl (fun _ goes => by cases goes) rfl rfl
      · exact tracked.of_quiet order running rfl rfl (fun _ goes => by cases goes; rfl) rfl rfl
  | downloadAff | downloadDic affData =>
      simp only [EnsureFrame.exec]
      split
      · exact tracked.of_quiet order running rfl rfl (fun _ goes => by cases goes) rfl rfl
      · exact tracked.of_quiet order running rfl rfl (fun _ goes => by cases goes; rfl) rfl rfl
  | writeAff affData dicData =>
      simp only [EnsureFrame.exec]
      split
      · exact tracked.of_quiet order running rfl rfl (fun _ goes => by cases goes) rfl rfl
      · exact tracked.of_quiet order running rfl rfl (fun _ goes => by cases goes; rfl) rfl rfl
  | renameAff temp dicData =>
      cases failed : input.failure with
      | some source =>
          simp only [EnsureFrame.exec, failed]
          refine tracked.of_quiet order running rfl rfl (fun _ goes => by cases goes) ?_ rfl
          simp [DirWorld.acted, failed]
      | none =>
          simp only [EnsureFrame.exec, failed]
          have affBy : ∀ outcome, (world.acted ⟨number, sourceUrl, .renameAff temp dicData⟩ input
              outcome).affBy = some number := by
            intro outcome
            simp [DirWorld.acted, failed, EnsureFrame.replacesAff]
          constructor
          · intro _
            rw [affBy]
            rfl
          · intro idle
            cases idle _ rfl
          · intro later seen _
            cases seen
            exact affBy _
  | writeDic dicData =>
      cases failed : input.failure with
      | some source =>
          simp only [EnsureFrame.exec, failed]
          exact tracked.of_failure running rfl failed left
      | none =>
          simp only [EnsureFrame.exec, failed]
          constructor
          · exact tracked.written
          · intro idle
            cases idle _ rfl
          · intro later seen _
            cases seen
            exact replacing rfl
  | renameDic temp =>
      cases failed : input.failure with
      | some source =>
          simp only [EnsureFrame.exec, failed]
          exact tracked.of_failure running rfl failed left
      | none =>
          simp only [EnsureFrame.exec, failed]
          constructor
          · exact tracked.written
          · intro _
            left
            have affBy := replacing rfl
            simpa [DirWorld.acted, failed, EnsureFrame.replacesAff, EnsureFrame.replacesDic]
              using affBy
          · intro later seen
            cases seen

theorem step {event : DirEvent} (tracked : PairTracked manager world)
    (left : dicLeftStale manager world event = true)
    (taken : world.step manager language event = some next) : PairTracked manager next := by
  cases event with
  | call sourceUrl =>
      by_cases free : world.call.isNone = true
      · simp only [DirWorld.step, free, if_true, Option.some.injEq] at taken
        subst next
        have idle : world.call = none := by simpa using free
        constructor
        · exact tracked.written
        · intro _
          apply tracked.paired
          intro other running
          cases idle.symm.trans running
        · intro later seen between
          cases seen
          cases between
      · simp [DirWorld.step, free] at taken
  | act input =>
      by_cases order : world.clock ≤ input.now
      · simp only [DirWorld.step, order, if_true, Option.map_eq_some_iff] at taken
        obtain ⟨call, running, rfl⟩ := taken
        exact tracked.of_act order running left
      · simp [DirWorld.step, order] at taken

end PairTracked

/-! ## A failed refresh -/

/-- The answer of a network and a disk that work. -/
def sampleDiskInput (seconds : ℕ) : DiskInput :=
  { now := seconds * 1000000000
    failure := none
    answers := fun _ => .received "SET UTF-8\n".toUTF8 }

/-- The default refresh interval of 24 hours. -/
def sampleManager : DictionaryManager :=
  { baseUrl := "https://example.com/dict"
    dictionaryDir := "/data/dictionaries"
    refreshInterval := 86400 * 1000000000 }

/-- The first download writes its files five seconds apart.  A day later only
the `.aff` file is stale; the refresh replaces it and then finds the disk full. -/
def failedRefresh : List DirEvent :=
  [.call none,
    .act (sampleDiskInput 1), .act (sampleDiskInput 1), .act (sampleDiskInput 1),
    .act (sampleDiskInput 2), .act (sampleDiskInput 3), .act (sampleDiskInput 3),
    .act (sampleDiskInput 8), .act (sampleDiskInput 8),
    .call none,
    .act (sampleDiskInput 86403), .act (sampleDiskInput 86403), .act (sampleDiskInput 86403),
    .act (sampleDiskInput 86404), .act (sampleDiskInput 86405), .act (sampleDiskInput 86405),
    .act { sampleDiskInput 86405 with failure := some "No space left on device (os error 28)" },
    .call none]

theorem mixed_pair_served :
    ¬∀ manager language events world input,
      Run (DirWorld.step manager language) (fun _ _ => True) DirWorld.empty events world →
      world.serves manager input = true →
      ∃ number, world.affBy = some number ∧ world.dicBy = some number := by
  intro claim
  obtain ⟨world, run, outcome⟩ :
      ∃ world, Run (DirWorld.step sampleManager "en_US") (fun _ _ => true = true) DirWorld.empty
        failedRefresh world ∧
        (world.serves sampleManager (sampleDiskInput 86406) && world.affBy == some 1 &&
          world.dicBy == some 0) = true :=
    Run.exists_of_runEvents (by decide +kernel)
  obtain ⟨⟨serving, affBy⟩, dicBy⟩ :
      (world.serves sampleManager (sampleDiskInput 86406) = true ∧ world.affBy = some 1) ∧
        world.dicBy = some 0 := by
    simpa only [Bool.and_eq_true, beq_iff_eq] using outcome
  obtain ⟨number, first, second⟩ :=
    claim sampleManager "en_US" failedRefresh world (sampleDiskInput 86406)
      (run.weaken fun _ _ _ => trivial) serving
  rw [affBy] at first
  rw [dicBy, ← first] at second
  cases second

/-- In every run whose failures meet the condition, a pair that is served
without a download was written by one call. -/
theorem served_pair_from_one_call (manager : DictionaryManager) (language : String)
    {events : List DirEvent} {world : DirWorld} {input : DiskInput}
    (run : Run (DirWorld.step manager language)
      (fun before event => dicLeftStale manager before event = true) DirWorld.empty events world)
    (serving : world.serves manager input = true) :
    ∃ number, world.affBy = some number ∧ world.dicBy = some number := by
  have tracked : PairTracked manager world :=
    run.invariant (fun _ _ _ tracked left taken => tracked.step left taken) .empty
  simp only [DirWorld.serves, Bool.and_eq_true, decide_eq_true_eq] at serving
  obtain ⟨⟨checking, order⟩, fresh⟩ := serving
  obtain ⟨_, ⟨aff, affPresent, _⟩, dic, dicPresent, dicYoung⟩ :=
    DictionaryManager.isFresh_iff.mp fresh
  have idle : ∀ call, world.call = some call → call.frame.betweenRenames = false := by
    intro call running
    rw [running, Option.any_some] at checking
    cases place : call.frame with
    | isFresh => rfl
    | _ =>
        rw [place] at checking
        cases checking
  obtain ⟨number, affBy⟩ : ∃ number, world.affBy = some number := by
    apply Option.isSome_iff_exists.mp
    apply tracked.written
    rw [affPresent]
    rfl
  rcases tracked.paired idle with same | stale
  · exact ⟨number, affBy, same ▸ affBy⟩
  · have young := DictionaryManager.isYoung_earlier order dicYoung
    rw [stale dic dicPresent] at young
    cases young

/-- The same failure a little later, when the `.dic` file is stale as well, and
a refresh from another source. -/
def failedAndRepeatedRefresh : List DirEvent :=
  failedRefresh.take 16 ++
    [.act { sampleDiskInput 86408 with failure := some "No space left on device (os error 28)" },
      .call (some "https://example.com/other"),
      .act (sampleDiskInput 86409), .act (sampleDiskInput 86409), .act (sampleDiskInput 86409),
      .act (sampleDiskInput 86409), .act (sampleDiskInput 86409), .act (sampleDiskInput 86409),
      .act (sampleDiskInput 86409), .act (sampleDiskInput 86409),
      .call none]

theorem served_pair_from_one_call_after_stale_failure :
    ∃ world, Run (DirWorld.step sampleManager "en_US")
        (fun before event => dicLeftStale sampleManager before event = true) DirWorld.empty
        failedAndRepeatedRefresh world ∧
      ∃ number, world.affBy = some number ∧ world.dicBy = some number := by
  obtain ⟨world, run, serving⟩ :
      ∃ world, Run (DirWorld.step sampleManager "en_US")
        (fun before event => dicLeftStale sampleManager before event = true) DirWorld.empty
        failedAndRepeatedRefresh world ∧
        world.serves sampleManager (sampleDiskInput 86410) = true :=
    Run.exists_of_runEvents (by decide +kernel)
  exact ⟨world, run, served_pair_from_one_call sampleManager "en_US" run serving⟩

end SpellServer
