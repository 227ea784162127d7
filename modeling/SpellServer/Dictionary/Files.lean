import SpellServer.Library.Interleaving
import SpellServer.Library.Paths

/-!
# The dictionary files on disk

`DictionaryManager` keeps the `.aff` and the `.dic` file of a language in a
directory of its own and downloads both when one is missing or old.  A call of
`ensure_dictionary` is a sequence of actions, each of which the operating system
or the network can fail.
-/

namespace SpellServer

open Library

/-- Times count nanoseconds of the system clock. -/
structure CachedFile where
  data : ByteArray
  modified : ℕ

/-- The directory of one language. -/
structure LanguageDir where
  aff : Option CachedFile
  dic : Option CachedFile

structure DictionaryManager where
  baseUrl : String
  dictionaryDir : String
  refreshInterval : ℕ
deriving DecidableEq

/-- `source` is the text of the underlying error. -/
inductive DictionaryError where
  | download (url source : String)
  | createDir (path source : String)
  | write (path source : String)
deriving DecidableEq

def DictionaryError.display : DictionaryError → String
  | .download url source => "failed to download dictionary from " ++ url ++ ": " ++ source
  | .createDir path source => "failed to create cache directory " ++ path ++ ": " ++ source
  | .write path source => "failed to write cache file " ++ path ++ ": " ++ source

/-! ## Downloads -/

/-- One `download_once`. -/
inductive Attempt where
  | received (data : ByteArray)
  | transient (source : String)
  | failed (source : String)

/-- `RETRY_ATTEMPTS`. -/
def retryAttempts : ℕ := 5

/-- The retry loop, `left` attempts before its last one. -/
def downloadFrom (answers : ℕ → Attempt) (attempt : ℕ) : ℕ → Except String ByteArray
  | 0 =>
      match answers attempt with
      | .received data => .ok data
      | .transient source | .failed source => .error source
  | left + 1 =>
      match answers attempt with
      | .received data => .ok data
      | .failed source => .error source
      | .transient _ => downloadFrom answers (attempt + 1) left

def download (answers : ℕ → Attempt) : Except String ByteArray :=
  downloadFrom answers 0 (retryAttempts - 1)

/-! ## Freshness -/

/-- What one action takes from outside: the clock, the error of its system call
if that fails, and the answers of the network. -/
structure DiskInput where
  now : ℕ
  failure : Option String
  answers : ℕ → Attempt

namespace DictionaryManager

/-- `duration_since` of a later time is zero. -/
def isYoung (manager : DictionaryManager) (now : ℕ) (file : CachedFile) : Bool :=
  decide (now - file.modified < manager.refreshInterval)

/-- `failure` is that of a `metadata` call. -/
def isFresh (manager : DictionaryManager) (input : DiskInput) (dir : LanguageDir) : Bool :=
  match dir.aff, dir.dic with
  | some aff, some dic =>
      input.failure.isNone && manager.isYoung input.now aff && manager.isYoung input.now dic
  | _, _ => false

def cacheDir (manager : DictionaryManager) (language : String) : String :=
  joinPath manager.dictionaryDir language

def affPath (manager : DictionaryManager) (language : String) : String :=
  joinPath (manager.cacheDir language) (language ++ ".aff")

def dicPath (manager : DictionaryManager) (language : String) : String :=
  joinPath (manager.cacheDir language) (language ++ ".dic")

/-- The URL both files are downloaded under. -/
def sourceOf (manager : DictionaryManager) (sourceUrl : Option String) : String :=
  sourceUrl.getD manager.baseUrl

theorem isFresh_iff {manager : DictionaryManager} {input : DiskInput} {dir : LanguageDir} :
    manager.isFresh input dir = true ↔
      input.failure = none ∧ (∃ aff, dir.aff = some aff ∧ manager.isYoung input.now aff = true) ∧
        ∃ dic, dir.dic = some dic ∧ manager.isYoung input.now dic = true := by
  unfold isFresh
  cases aff : dir.aff <;> cases dic : dir.dic <;> simp [and_assoc]

/-- A file only gets older. -/
theorem isYoung_earlier {manager : DictionaryManager} {earlier later : ℕ} {file : CachedFile}
    (order : earlier ≤ later) (young : manager.isYoung later file = true) :
    manager.isYoung earlier file = true := by
  simp only [isYoung, decide_eq_true_eq] at young ⊢
  omega

end DictionaryManager

def affUrl (source language : String) : String := source ++ "/" ++ language ++ ".aff"

def dicUrl (source language : String) : String := source ++ "/" ++ language ++ ".dic"

/-! ## `ensure_dictionary` -/

/-- A call in front of its next action.  `atomic_write` is two of them: the
temporary file, which gets the modification time, and the rename. -/
inductive EnsureFrame where
  | isFresh
  | createDirAll
  | downloadAff
  | downloadDic (affData : ByteArray)
  | writeAff (affData dicData : ByteArray)
  | renameAff (temp : CachedFile) (dicData : ByteArray)
  | writeDic (dicData : ByteArray)
  | renameDic (temp : CachedFile)

/-- `downloaded` lists what the action has received, each with its URL. -/
structure EnsureOutcome where
  dir : LanguageDir
  next : Status EnsureFrame (Except DictionaryError (String × String))
  downloaded : List (String × ByteArray)

namespace EnsureOutcome

def goto (dir : LanguageDir) (frame : EnsureFrame) : EnsureOutcome :=
  { dir, next := .running frame, downloaded := [] }

def finish (dir : LanguageDir) (result : Except DictionaryError (String × String)) :
    EnsureOutcome :=
  { dir, next := .returned result, downloaded := [] }

@[simp] theorem goto_dir (dir : LanguageDir) (frame : EnsureFrame) : (goto dir frame).dir = dir :=
  rfl
@[simp] theorem goto_next (dir : LanguageDir) (frame : EnsureFrame) :
    (goto dir frame).next = .running frame := rfl
@[simp] theorem goto_downloaded (dir : LanguageDir) (frame : EnsureFrame) :
    (goto dir frame).downloaded = [] := rfl
@[simp] theorem finish_dir (dir : LanguageDir)
    (result : Except DictionaryError (String × String)) : (finish dir result).dir = dir := rfl
@[simp] theorem finish_next (dir : LanguageDir)
    (result : Except DictionaryError (String × String)) :
    (finish dir result).next = .returned result := rfl
@[simp] theorem finish_downloaded (dir : LanguageDir)
    (result : Except DictionaryError (String × String)) :
    (finish dir result).downloaded = [] := rfl

end EnsureOutcome

section

variable (manager : DictionaryManager) (language : String) (sourceUrl : Option String)

def EnsureFrame.exec (input : DiskInput) (dir : LanguageDir) : EnsureFrame → EnsureOutcome
  | .isFresh =>
      if manager.isFresh input dir then
        .finish dir (.ok (manager.affPath language, manager.dicPath language))
      else .goto dir .createDirAll
  | .createDirAll =>
      match input.failure with
      | some source => .finish dir (.error (.createDir (manager.cacheDir language) source))
      | none => .goto dir .downloadAff
  | .downloadAff =>
      let url := affUrl (manager.sourceOf sourceUrl) language
      match download input.answers with
      | .error source => .finish dir (.error (.download url source))
      | .ok data => { dir, next := .running (.downloadDic data), downloaded := [(url, data)] }
  | .downloadDic affData =>
      let url := dicUrl (manager.sourceOf sourceUrl) language
      match download input.answers with
      | .error source => .finish dir (.error (.download url source))
      | .ok data => { dir, next := .running (.writeAff affData data), downloaded := [(url, data)] }
  | .writeAff affData dicData =>
      match input.failure with
      | some source => .finish dir (.error (.write (manager.affPath language) source))
      | none => .goto dir (.renameAff { data := affData, modified := input.now } dicData)
  | .renameAff temp dicData =>
      match input.failure with
      | some source => .finish dir (.error (.write (manager.affPath language) source))
      | none => .goto { dir with aff := some temp } (.writeDic dicData)
  | .writeDic dicData =>
      match input.failure with
      | some source => .finish dir (.error (.write (manager.dicPath language) source))
      | none => .goto dir (.renameDic { data := dicData, modified := input.now })
  | .renameDic temp =>
      match input.failure with
      | some source => .finish dir (.error (.write (manager.dicPath language) source))
      | none =>
          .finish { dir with dic := some temp }
            (.ok (manager.affPath language, manager.dicPath language))

/-- Run a call with nothing in between, one input for each action. -/
def EnsureFrame.runAlone : List DiskInput → LanguageDir → EnsureFrame → EnsureOutcome
  | [], dir, frame => .goto dir frame
  | input :: inputs, dir, frame =>
      let outcome := frame.exec manager language sourceUrl input dir
      match outcome.next with
      | .returned _ => outcome
      | .running later =>
          let rest := runAlone inputs outcome.dir later
          { rest with downloaded := outcome.downloaded ++ rest.downloaded }

/-- One input for each action of a call. -/
structure EnsureInputs where
  isFresh : DiskInput
  createDirAll : DiskInput
  downloadAff : DiskInput
  downloadDic : DiskInput
  writeAff : DiskInput
  renameAff : DiskInput
  writeDic : DiskInput
  renameDic : DiskInput

def EnsureInputs.actions (inputs : EnsureInputs) : List DiskInput :=
  [inputs.isFresh, inputs.createDirAll, inputs.downloadAff, inputs.downloadDic, inputs.writeAff,
    inputs.renameAff, inputs.writeDic, inputs.renameDic]

def ensureDictionary (inputs : EnsureInputs) (dir : LanguageDir) : EnsureOutcome :=
  EnsureFrame.runAlone manager language sourceUrl inputs.actions dir .isFresh

variable {manager language sourceUrl}

theorem EnsureFrame.runAlone_goes {input : DiskInput} {inputs : List DiskInput}
    {dir after : LanguageDir} {frame later : EnsureFrame} {downloaded : List (String × ByteArray)}
    (moves : frame.exec manager language sourceUrl input dir =
      { dir := after, next := .running later, downloaded }) :
    runAlone manager language sourceUrl (input :: inputs) dir frame =
      { runAlone manager language sourceUrl inputs after later with
        downloaded :=
          downloaded ++ (runAlone manager language sourceUrl inputs after later).downloaded } := by
  simp only [runAlone, moves]

theorem EnsureFrame.runAlone_returns {input : DiskInput} {inputs : List DiskInput}
    {dir after : LanguageDir} {frame : EnsureFrame}
    {result : Except DictionaryError (String × String)}
    (ends : frame.exec manager language sourceUrl input dir = .finish after result) :
    runAlone manager language sourceUrl (input :: inputs) dir frame = .finish after result := by
  simp only [runAlone, ends, EnsureOutcome.finish_next]

/-- The call has ended with an error. -/
def EnsureOutcome.Failed (outcome : EnsureOutcome) : Prop :=
  ∃ error, outcome.next = .returned (.error error)

private theorem runAlone_fails {input : DiskInput} {inputs : List DiskInput}
    {dir : LanguageDir} {frame : EnsureFrame} {error : DictionaryError}
    (ends : frame.exec manager language sourceUrl input dir = .finish dir (.error error)) :
    (EnsureFrame.runAlone manager language sourceUrl (input :: inputs) dir frame).Failed := by
  rw [EnsureFrame.runAlone_returns ends]
  exact ⟨error, rfl⟩

private theorem writeDic_cases (write rename : DiskInput) (dir : LanguageDir)
    (dicData : ByteArray) :
    (EnsureFrame.runAlone manager language sourceUrl [write, rename] dir
        (.writeDic dicData)).Failed ∨
      EnsureFrame.runAlone manager language sourceUrl [write, rename] dir (.writeDic dicData) =
        .finish { dir with dic := some { data := dicData, modified := write.now } }
          (.ok (manager.affPath language, manager.dicPath language)) := by
  cases written : write.failure with
  | some source => exact Or.inl (runAlone_fails (by simp only [EnsureFrame.exec, written]; rfl))
  | none =>
      rw [EnsureFrame.runAlone_goes (by simp only [EnsureFrame.exec, written]; rfl)]
      cases renamed : rename.failure with
      | some source =>
          left
          exact runAlone_fails (by simp only [EnsureFrame.exec, renamed]; rfl)
      | none =>
          right
          rw [EnsureFrame.runAlone_returns (by simp only [EnsureFrame.exec, renamed]; rfl)]
          rfl

private theorem writeAff_cases (inputs : EnsureInputs) (dir : LanguageDir)
    (affData dicData : ByteArray) :
    (EnsureFrame.runAlone manager language sourceUrl
        [inputs.writeAff, inputs.renameAff, inputs.writeDic, inputs.renameDic] dir
        (.writeAff affData dicData)).Failed ∨
      EnsureFrame.runAlone manager language sourceUrl
          [inputs.writeAff, inputs.renameAff, inputs.writeDic, inputs.renameDic] dir
          (.writeAff affData dicData) =
        .finish
          { aff := some { data := affData, modified := inputs.writeAff.now }
            dic := some { data := dicData, modified := inputs.writeDic.now } }
          (.ok (manager.affPath language, manager.dicPath language)) := by
  cases written : inputs.writeAff.failure with
  | some source => exact Or.inl (runAlone_fails (by simp only [EnsureFrame.exec, written]; rfl))
  | none =>
      rw [EnsureFrame.runAlone_goes (by simp only [EnsureFrame.exec, written]; rfl)]
      cases renamed : inputs.renameAff.failure with
      | some source =>
          left
          exact runAlone_fails (by simp only [EnsureFrame.exec, renamed]; rfl)
      | none =>
          rw [EnsureFrame.runAlone_goes (by simp only [EnsureFrame.exec, renamed]; rfl)]
          rcases writeDic_cases inputs.writeDic inputs.renameDic _ dicData with failed | ends
          · exact Or.inl failed
          · right
            rw [ends]
            rfl

/-- A call serves a fresh pair, fails, or leaves the pair it has downloaded. -/
theorem ensureDictionary_cases (manager : DictionaryManager) (language : String)
    (sourceUrl : Option String) (inputs : EnsureInputs) (dir : LanguageDir) :
    (manager.isFresh inputs.isFresh dir = true ∧
      ensureDictionary manager language sourceUrl inputs dir =
        .finish dir (.ok (manager.affPath language, manager.dicPath language))) ∨
    (manager.isFresh inputs.isFresh dir = false ∧
      (ensureDictionary manager language sourceUrl inputs dir).Failed) ∨
    (manager.isFresh inputs.isFresh dir = false ∧ ∃ affData dicData,
      ensureDictionary manager language sourceUrl inputs dir =
        { dir :=
            { aff := some { data := affData, modified := inputs.writeAff.now }
              dic := some { data := dicData, modified := inputs.writeDic.now } }
          next := .returned (.ok (manager.affPath language, manager.dicPath language))
          downloaded :=
            [(affUrl (manager.sourceOf sourceUrl) language, affData),
              (dicUrl (manager.sourceOf sourceUrl) language, dicData)] }) := by
  unfold ensureDictionary EnsureInputs.actions
  cases fresh : manager.isFresh inputs.isFresh dir with
  | true =>
      refine Or.inl ⟨rfl, ?_⟩
      rw [EnsureFrame.runAlone_returns (by simp only [EnsureFrame.exec, fresh]; rfl)]
  | false =>
      right
      rw [EnsureFrame.runAlone_goes (by simp only [EnsureFrame.exec, fresh]; rfl)]
      cases created : inputs.createDirAll.failure with
      | some source =>
          exact Or.inl ⟨rfl, runAlone_fails (by simp only [EnsureFrame.exec, created]; rfl)⟩
      | none =>
          rw [EnsureFrame.runAlone_goes (by simp only [EnsureFrame.exec, created]; rfl)]
          cases affReceived : download inputs.downloadAff.answers with
          | error source =>
              exact Or.inl ⟨rfl, runAlone_fails (by simp only [EnsureFrame.exec, affReceived]; rfl)⟩
          | ok affData =>
              rw [EnsureFrame.runAlone_goes (by simp only [EnsureFrame.exec, affReceived]; rfl)]
              cases dicReceived : download inputs.downloadDic.answers with
              | error source =>
                  exact Or.inl
                    ⟨rfl, runAlone_fails (by simp only [EnsureFrame.exec, dicReceived]; rfl)⟩
              | ok dicData =>
                  rw [EnsureFrame.runAlone_goes (by simp only [EnsureFrame.exec, dicReceived]; rfl)]
                  rcases writeAff_cases inputs dir affData dicData with failed | ends
                  · exact Or.inl ⟨rfl, failed⟩
                  · refine Or.inr ⟨rfl, affData, dicData, ?_⟩
                    rw [ends]
                    rfl

end

end SpellServer
