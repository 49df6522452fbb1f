import CefCore.Browser.AuthVaultKey

/-!
# The order of calls of the auth vault

The calls of `CefAuthVaultImpl` come in on the UI thread. Each of them posts a task of its own to the
thread pool, whose reply comes back to the UI thread, so that the bodies of the tasks and their
replies run in any order. A name is dirty from `SaveProfile` until a reply that reports success for
that name, of whichever call it is.

## Main results

* `VaultWorld.ordering`: what the files and the dirty names are, whatever the order.
-/

namespace CefCore.Browser.AuthVault

open List Option FileScript Script FileOp Script Transition

def VaultCall.actionName : VaultCall → Option String
  | saveProfile profile => some (profileName profile)
  | deleteProfile name => some name
  | _ => none

def VaultResult.success : VaultResult → Bool
  | action result => result.success
  | _ => false

/-- A task: a call, what its body has returned, if it has run, and whether the reply has run. -/
structure VaultTask where
  call : VaultCall
  result : Option VaultResult := none
  replied : Bool := false
  deriving DecidableEq

namespace VaultTask

def succeeded (task : VaultTask) : Bool := task.result.any VaultResult.success

def completed (task : VaultTask) : Bool := task.replied && task.succeeded

def saves (name : String) (task : VaultTask) : Bool :=
  match task.call with
  | .saveProfile profile => profileName profile = name
  | _ => false

def changed (name : String) (task : VaultTask) : Bool :=
  task.call.actionName = some name && task.succeeded

end VaultTask

/-- The files, the names of the dirty profiles, and the tasks in the order of the calls. -/
structure VaultWorld where
  disk : FileWorld
  dirtyProfiles : List String := []
  tasks : List VaultTask := []

/-- What can happen: a call on the UI thread, the body of a task on the pool, a reply on the UI
thread. -/
inductive VaultAction where
  | issue (c : VaultCall)
  | runBody (i : Nat)
  | reply (i : Nat)

namespace VaultWorld

section

variable (w : VaultWorld)

def markProfileDirty (name : String) : VaultWorld :=
  { w with dirtyProfiles := w.dirtyProfiles.insert name }

def isProfileDirty (name : String) : Bool := name ∈ w.dirtyProfiles

def clearProfileDirty (name : String) : VaultWorld :=
  { w with dirtyProfiles := w.dirtyProfiles.filter (· ≠ name) }

/-- A call on the UI thread: `SaveProfile` marks the profile, if it has a name. -/
def issue (c : VaultCall) : VaultWorld :=
  let posted := { w with tasks := w.tasks ++ [{ call := c }] }
  match c with
  | .saveProfile profile =>
    if profileName profile ≠ "" then posted.markProfileDirty (profileName profile) else posted
  | _ => posted

/-- `OnActionComplete`, `OnReadComplete` or `OnVisitComplete`. -/
def onComplete (c : VaultCall) (result : VaultResult) : VaultWorld :=
  match c.actionName, result with
  | some name, .action result =>
    if result.success = true ∧ name ≠ "" then w.clearProfileDirty name else w
  | _, _ => w

end

def step (v : VaultPrimitives) (home : String) (w : VaultWorld) :
    VaultAction → Option VaultWorld
  | .issue c => some (w.issue c)
  | .runBody i =>
    match w.tasks[i]? with
    | some { call := c, result := none, replied := replied } =>
      let r := exec run (c.body v home) w.disk
      some { w with
        disk := r.2
        tasks := w.tasks.set i { call := c, result := some r.1, replied := replied } }
    | _ => none
  | .reply i =>
    match w.tasks[i]? with
    | some { call := c, result := some result, replied := false } =>
      some ({ w with
        tasks := w.tasks.set i { call := c, result := some result, replied := true } }.onComplete
          c result)
    | _ => none

end VaultWorld

def profilePath (home name : String) : String := buildProfilePath (getDefaultAuthDirectory home) name

/-- The file of a profile is what a call was to leave there. -/
def Reflects (v : VaultPrimitives) (home : String) (w : FileWorld) : VaultCall → Prop
  | .saveProfile profile => ∃ key plaintext nonce text, key.length = encryptionKeyBytes ∧
    IsTextOf v profile key plaintext nonce text ∧
    w.files (profilePath home (profileName profile)) = some text
  | .deleteProfile name => w.files (profilePath home name) = none
  | _ => True

/-- The tasks behind a position do not meet `p`. -/
def NoneBehind (p : VaultTask → Bool) (tasks : List VaultTask) (i : Nat) : Prop :=
  ∀ j task, i < j → tasks[j]? = some task → p task = false

/-- The last task that meets `p`. -/
structure IsLast (p : VaultTask → Bool) (tasks : List VaultTask) (i : Nat) (task : VaultTask) :
    Prop where
  get : tasks[i]? = some task
  meets : p task = true
  last : NoneBehind p tasks i

/-- The file of a profile reflects the last call that has succeeded, or is the one that it was at the
beginning. -/
structure FileRight (v : VaultPrimitives) (home : String) (w₀ : FileWorld) (name : String)
    (w : VaultWorld) : Prop where
  last : ∀ i task, IsLast (VaultTask.changed name) w.tasks i task → Reflects v home w.disk task.call
  untouched : (∀ task ∈ w.tasks, task.changed name = false) →
    w.disk.files (profilePath home name) = w₀.files (profilePath home name)

/-- A profile is dirty if the last save of it has not been completed. -/
def DirtyRight (name : String) (w : VaultWorld) : Prop :=
  ∀ i task, IsLast (VaultTask.saves name) w.tasks i task → task.completed = false →
    w.isProfileDirty name = true

/-- A body runs before those of all later calls that change the same profile, and its writes are
whole. -/
def RunsInOrder (v : VaultPrimitives) (home name : String) (w : VaultWorld) : VaultAction → Prop
  | .runBody i => ∀ task, w.tasks[i]? = some task → task.result = none →
    Along run Whole (task.call.body v home) w.disk ∧
      (task.call.actionName = some name → NoneBehind (VaultTask.changed name) w.tasks i)
  | _ => True

/-- A profile that is saved has a name. A reply that clears a name is the one of the last save for it,
or this save has been completed. -/
def ClearsOwn (name : String) (w : VaultWorld) : VaultAction → Prop
  | .issue c => { call := c : VaultTask }.saves name = true → name ≠ ""
  | .reply i => ∀ task, w.tasks[i]? = some task → task.replied = false →
    task.changed name = true → name ≠ "" →
    ∀ j task', IsLast (VaultTask.saves name) w.tasks j task' → j = i ∨ task'.completed = true
  | .runBody _ => True

/-! ### The last of several tasks -/

section IsLast

variable {p : VaultTask → Bool} {tasks : List VaultTask} {i j : Nat} {task task' : VaultTask}

lemma isLast_concat_iff : IsLast p (tasks ++ [task']) i task ↔
    i = tasks.length ∧ task = task' ∧ p task' = true ∨ p task' = false ∧ IsLast p tasks i task := by
  constructor
  · rintro ⟨hget, hmeets, hlast⟩
    rcases getElem?_concat_eq_some.mp hget with hold | ⟨hi, rfl⟩
    · have hlt := (List.getElem?_eq_some_iff.mp hold).1
      refine .inr ⟨hlast tasks.length task' hlt getElem?_concat_length, hold, hmeets, ?_⟩
      exact fun j t hj ht => hlast j t hj (getElem?_concat_eq_some.mpr (.inl ht))
    · exact .inl ⟨hi, rfl, hmeets⟩
  · rintro (⟨rfl, rfl, hp⟩ | ⟨hp, hget, hmeets, hlast⟩)
    · refine ⟨getElem?_concat_length, hp, fun j t hj ht => ?_⟩
      have hlt := (List.getElem?_eq_some_iff.mp ht).1
      rw [length_append, length_singleton] at hlt
      omega
    · refine ⟨getElem?_concat_eq_some.mpr (.inl hget), hmeets, fun j t hj ht => ?_⟩
      rcases getElem?_concat_eq_some.mp ht with hold | ⟨-, rfl⟩
      · exact hlast j t hj hold
      · exact hp

lemma isLast_set_iff (hi : tasks[i]? = some task) (hp : p task' = p task) {t : VaultTask} :
    IsLast p (tasks.set i task') j t ↔
      j = i ∧ t = task' ∧ IsLast p tasks i task ∨ j ≠ i ∧ IsLast p tasks j t := by
  have hself : (tasks.set i task')[i]? = some task' :=
    List.getElem?_set_self (List.getElem?_eq_some_iff.mp hi).1
  -- The tasks behind a position meet `p` as before.
  have hbehind : ∀ n, NoneBehind p (tasks.set i task') n ↔ NoneBehind p tasks n := by
    intro n
    constructor
    · intro h k t' hk ht'
      by_cases hki : k = i
      · subst hki
        rw [hi] at ht'
        rw [← some.inj ht', ← hp]
        exact h k task' hk hself
      · exact h k t' hk ((getElem?_set_ne (Ne.symm hki)).trans ht')
    · intro h k t' hk ht'
      by_cases hki : k = i
      · subst hki
        rw [hself] at ht'
        rw [← some.inj ht', hp]
        exact h k task hk hi
      · exact h k t' hk ((getElem?_set_ne (Ne.symm hki)).symm.trans ht')
  by_cases hji : j = i
  · subst hji
    constructor
    · rintro ⟨hget, hmeets, hlast⟩
      obtain rfl := some.inj (hself.symm.trans hget)
      exact .inl ⟨rfl, rfl, hi, hp ▸ hmeets, (hbehind j).mp hlast⟩
    · rintro (⟨-, rfl, hget, hmeets, hlast⟩ | ⟨hne, -⟩)
      · exact ⟨hself, hp.trans hmeets, (hbehind j).mpr hlast⟩
      · exact absurd rfl hne
  · have hget := getElem?_set_ne (l := tasks) (a := task') (Ne.symm hji)
    constructor
    · rintro ⟨ht, hmeets, hlast⟩
      exact .inr ⟨hji, hget.symm.trans ht, hmeets, (hbehind j).mp hlast⟩
    · rintro (⟨heq, -⟩ | ⟨-, ht, hmeets, hlast⟩)
      · exact absurd heq hji
      · exact ⟨hget.trans ht, hmeets, (hbehind j).mpr hlast⟩

lemma isLast_set_of_noneBehind (hi : tasks[i]? = some task) (hp : p task' = true)
    (hlast : NoneBehind p tasks i) {t : VaultTask} (h : IsLast p (tasks.set i task') j t) :
    t = task' := by
  have hself : (tasks.set i task')[i]? = some task' :=
    List.getElem?_set_self (List.getElem?_eq_some_iff.mp hi).1
  rcases Nat.lt_trichotomy i j with hlt | rfl | hlt
  · have := hlast j t hlt ((getElem?_set_ne (Nat.ne_of_lt hlt)).symm.trans h.get)
    rw [h.meets] at this
    cases this
  · exact some.inj (h.get.symm.trans hself)
  · have := h.last i task' hlt hself
    rw [hp] at this
    cases this

end IsLast

/-! ### The files -/

/-- **The body of a call** leaves the file of its profile as it was to, or it fails and changes
nothing there. Other profiles are not changed. -/
theorem exec_body_reflects {v : VaultPrimitives} {home : String} {c : VaultCall} {w : FileWorld}
    (hwhole : Along run Whole (c.body v home) w) (name : String) :
    c.actionName = some name ∧ (exec run (c.body v home) w).1.success = true ∧
        Reflects v home (exec run (c.body v home) w).2 c ∨
      (c.actionName = some name → (exec run (c.body v home) w).1.success = false) ∧
        (exec run (c.body v home) w).2.files (profilePath home name) =
          w.files (profilePath home name) := by
  have hkeyPath := buildProfilePath_ne_keyPath (getDefaultAuthDirectory home) name home
  cases c with
  | readProfile other =>
    rw [VaultCall.body, exec_bind_pure]
    exact .inr ⟨by rintro ⟨⟩, exec_files_of_all
      (readProfileOnBlockingThread_all v hkeyPath _ other) w⟩
  | visitProfiles =>
    rw [VaultCall.body, exec_bind_pure]
    exact .inr ⟨by rintro ⟨⟩, exec_files_of_all
      (listProfilesOnBlockingThread_all v hkeyPath _) w⟩
  | deleteProfile other =>
    rw [VaultCall.body, exec_bind_pure]
    by_cases hother : other = name
    · subst hother
      rcases exec_deleteProfileOnBlockingThread (getDefaultAuthDirectory home) other w with
        ⟨-, hsuccess, hfiles⟩ | ⟨hfailure, hfiles⟩
      · refine .inl ⟨rfl, hsuccess, ?_⟩
        rw [Reflects, hfiles]
        exact Function.update_self ..
      · exact .inr ⟨fun _ => hfailure, congrFun hfiles _⟩
    · refine .inr ⟨fun heq => absurd (some.inj heq) hother, ?_⟩
      exact exec_files_of_all (deleteProfileOnBlockingThread_all
        fun heq => hother (buildProfilePath_injective heq).symm) w
  | saveProfile profile =>
    rw [VaultCall.body, along_bind_pure] at hwhole
    rw [VaultCall.body, exec_bind_pure]
    rcases exec_saveProfileOnBlockingThread v (getDefaultAuthDirectory home)
        (getDefaultEncryptionKeyPath home) profile w with
      ⟨hfailure, hfiles⟩ | ⟨other, w₁, hother, -, hfiles₁, -, hexec, halong⟩
    · exact .inr ⟨fun _ => hfailure, congrFun hfiles _⟩
    · obtain ⟨-, halong⟩ := halong _ hwhole
      have hname : profileName profile = other := by rw [profileName, hother, getD_some]
      have hall : (ensureEncryptionKey (getDefaultEncryptionKeyPath home)).All fun op =>
          op.target ≠ some (profilePath home name) := ensureEncryptionKey_all hkeyPath
      have hfiles₂ := exec_files_of_all hall w₁
      rw [hfiles₁] at hfiles₂
      rw [hexec]
      by_cases hne : other = name
      · subst hne
        rcases exec_saveWithKey v (getDefaultAuthDirectory home) other profile
            (exec run (ensureEncryptionKey _) w₁).1
            (exec run (ensureEncryptionKey _) w₁).2 with
          ⟨key, plaintext, nonce, text, hkey, htext, hsuccess, hfiles₃⟩ |
          ⟨hfailure, hfiles₃ | hbroken⟩
        · refine .inl ⟨congrArg some hname, hsuccess, key, plaintext, nonce, text,
            length_exec_ensureEncryptionKey hkey, htext, ?_⟩
          rw [hfiles₃, hname]
          exact Function.update_self ..
        · exact .inr ⟨fun _ => hfailure, (congrFun hfiles₃ _).trans hfiles₂⟩
        · exact absurd halong hbroken
      · refine .inr ⟨fun heq => absurd (hname.symm.trans (some.inj heq)) hne, ?_⟩
        have hpath : buildProfilePath (getDefaultAuthDirectory home) name ≠
            buildProfilePath (getDefaultAuthDirectory home) other := fun heq =>
          hne (buildProfilePath_injective heq).symm
        exact (exec_files_of_all (saveWithKey_all v hpath profile _) _).trans hfiles₂

/-! ### The steps -/

namespace VaultWorld

section Steps

variable {v : VaultPrimitives} {home : String} {w w' : VaultWorld}

variable {a : VaultAction} {i : Nat} {name : String}

lemma step_runBody (h : w.step v home (.runBody i) = some w') :
    ∃ task, w.tasks[i]? = some task ∧ task.result = none ∧
      w' = { w with
        disk := (exec run (task.call.body v home) w.disk).2
        tasks := w.tasks.set i { task with
          result := some (exec run (task.call.body v home) w.disk).1 } } := by
  simp only [step] at h
  split at h
  · rename_i c replied htask
    exact ⟨_, htask, rfl, (some.inj h).symm⟩
  · cases h

lemma step_reply (h : w.step v home (.reply i) = some w') :
    ∃ task result, w.tasks[i]? = some task ∧ task.result = some result ∧ task.replied = false ∧
      w' = ({ w with tasks := w.tasks.set i { task with replied := true } }.onComplete
        task.call result) := by
  simp only [step] at h
  split at h
  · rename_i c result htask
    exact ⟨_, result, htask, rfl, rfl, (some.inj h).symm⟩
  · cases h

lemma onComplete_tasks (w : VaultWorld) (c : VaultCall) (result : VaultResult) :
    (w.onComplete c result).tasks = w.tasks ∧ (w.onComplete c result).disk = w.disk := by
  unfold onComplete
  split
  · split <;> exact ⟨rfl, rfl⟩
  · exact ⟨rfl, rfl⟩

lemma issue_tasks (w : VaultWorld) (c : VaultCall) :
    (w.issue c).tasks = w.tasks ++ [{ call := c }] ∧ (w.issue c).disk = w.disk := by
  unfold issue
  split
  · split <;> exact ⟨rfl, rfl⟩
  · exact ⟨rfl, rfl⟩

lemma reflects_congr {c : VaultCall} {disk disk' : FileWorld}
    (h : Reflects v home disk c) (hname : c.actionName = some name)
    (hsame : disk'.files (profilePath home name) = disk.files (profilePath home name)) :
    Reflects v home disk' c := by
  cases c with
  | saveProfile profile =>
    obtain rfl : profileName profile = name := some.inj hname
    obtain ⟨key, plaintext, nonce, text, hkey, htext, hfile⟩ := h
    exact ⟨key, plaintext, nonce, text, hkey, htext, hsame.trans hfile⟩
  | deleteProfile other =>
    obtain rfl : other = name := some.inj hname
    exact hsame.trans h
  | readProfile other => trivial
  | visitProfiles => trivial

lemma forall_of_forall_set {p : VaultTask → Bool} {tasks : List VaultTask}
    {task task' : VaultTask} (hi : tasks[i]? = some task) (hp : p task' = p task)
    (h : ∀ t ∈ tasks.set i task', p t = false) : ∀ t ∈ tasks, p t = false := by
  intro t ht
  obtain ⟨k, hk⟩ := mem_iff_getElem?.mp ht
  by_cases hki : k = i
  · subst hki
    obtain rfl := some.inj (hi.symm.trans hk)
    rw [← hp]
    exact h task' (mem_set (List.getElem?_eq_some_iff.mp hi).1 _)
  · exact h t (mem_of_getElem? ((getElem?_set_ne (Ne.symm hki)).trans hk))

lemma changed_of_result_none {task : VaultTask} (h : task.result = none) (name : String) :
    task.changed name = false := by
  unfold VaultTask.changed VaultTask.succeeded
  rw [h]
  exact Bool.and_false _

theorem fileRight_step {w₀ : FileWorld}
    (h : FileRight v home w₀ name w) (hP : RunsInOrder v home name w a)
    (hstep : w.step v home a = some w') : FileRight v home w₀ name w' := by
  cases a with
  | issue c =>
    cases hstep
    obtain ⟨htasks, hdisk⟩ := issue_tasks w c
    refine ⟨fun i task hlast => ?_, fun hnone => ?_⟩
    · rw [htasks] at hlast
      rw [hdisk]
      rcases isLast_concat_iff.mp hlast with ⟨-, -, hchanged⟩ | ⟨-, hlast⟩
      · rw [changed_of_result_none rfl] at hchanged
        cases hchanged
      · exact h.last i task hlast
    · rw [hdisk]
      rw [htasks] at hnone
      exact h.untouched fun task htask => hnone task (mem_append_left _ htask)
  | reply i =>
    obtain ⟨task, result, hi, -, -, rfl⟩ := step_reply hstep
    obtain ⟨htasks, hdisk⟩ := onComplete_tasks
      { w with tasks := w.tasks.set i { task with replied := true } } task.call result
    have hchanged : VaultTask.changed name { task with replied := true } = task.changed name := rfl
    refine ⟨fun j t hlast => ?_, fun hnone => ?_⟩
    · rw [htasks] at hlast
      rw [hdisk]
      rcases (isLast_set_iff hi hchanged).mp hlast with ⟨-, rfl, hold⟩ | ⟨-, hold⟩
      · exact h.last i task hold
      · exact h.last j t hold
    · rw [hdisk]
      rw [htasks] at hnone
      exact h.untouched (forall_of_forall_set hi hchanged hnone)
  | runBody i =>
    obtain ⟨task, hi, hresult, rfl⟩ := step_runBody hstep
    obtain ⟨hwhole, hbehind⟩ := hP task hi hresult
    have hunchanged := changed_of_result_none hresult name
    rcases exec_body_reflects hwhole name with ⟨hname, hsuccess, hreflects⟩ | ⟨hfailure, hsame⟩
    · have hchanged : VaultTask.changed name { task with
          result := some (exec run (task.call.body v home) w.disk).1 } = true := by
        unfold VaultTask.changed VaultTask.succeeded
        simp [hname, hsuccess]
      refine ⟨fun j t hlast => ?_, fun hnone => ?_⟩
      · rw [isLast_set_of_noneBehind hi hchanged (hbehind hname) hlast]
        exact hreflects
      · rw [hnone _ (mem_set (List.getElem?_eq_some_iff.mp hi).1 _)] at hchanged
        cases hchanged
    · have hchanged : VaultTask.changed name { task with
          result := some (exec run (task.call.body v home) w.disk).1 } =
          task.changed name := by
        rw [hunchanged]
        unfold VaultTask.changed VaultTask.succeeded
        by_cases hname : task.call.actionName = some name
        · simp [hfailure hname]
        · simp [hname]
      refine ⟨fun j t hlast => ?_, fun hnone => ?_⟩
      · rcases (isLast_set_iff hi hchanged).mp hlast with ⟨-, -, hlast⟩ | ⟨-, hlast⟩
        · have hmeets := hlast.meets
          rw [hunchanged] at hmeets
          cases hmeets
        · have hname := hlast.meets
          unfold VaultTask.changed at hname
          exact reflects_congr (h.last j t hlast)
            (by simpa using (Bool.and_eq_true_iff.mp hname).1) hsame
      · exact hsame.trans (h.untouched (forall_of_forall_set hi hchanged hnone))

/-! ### Dirty profiles -/

lemma isProfileDirty_iff {w : VaultWorld} :
    w.isProfileDirty name = true ↔ name ∈ w.dirtyProfiles := decide_eq_true_iff

lemma isProfileDirty_issue (w : VaultWorld) (c : VaultCall) (name : String) :
    (w.issue c).isProfileDirty name = true ↔ w.isProfileDirty name = true ∨
      VaultTask.saves name { call := c } = true ∧ name ≠ "" := by
  rw [isProfileDirty_iff, isProfileDirty_iff]
  cases c with
  | saveProfile profile =>
    simp only [issue, VaultTask.saves, decide_eq_true_eq]
    by_cases hempty : profileName profile = ""
    · rw [if_neg (not_not_intro hempty)]
      refine ⟨.inl, ?_⟩
      rintro (hdirty | ⟨rfl, hne⟩)
      · exact hdirty
      · exact absurd hempty hne
    · rw [if_pos hempty, markProfileDirty, mem_insert_iff]
      constructor
      · rintro (rfl | hdirty)
        · exact .inr ⟨rfl, hempty⟩
        · exact .inl hdirty
      · rintro (hdirty | ⟨rfl, -⟩)
        · exact .inr hdirty
        · exact .inl rfl
  | deleteProfile other => simp [issue, VaultTask.saves]
  | readProfile other => simp [issue, VaultTask.saves]
  | visitProfiles => simp [issue, VaultTask.saves]

lemma isProfileDirty_onComplete (w : VaultWorld) (c : VaultCall) (result : VaultResult)
    (name : String) : (w.onComplete c result).isProfileDirty name = true ↔
      w.isProfileDirty name = true ∧
        ¬ (c.actionName = some name ∧ result.success = true ∧ name ≠ "") := by
  rw [isProfileDirty_iff, isProfileDirty_iff]
  unfold onComplete
  split
  · rename_i other result hname
    rw [hname]
    simp only [VaultResult.success, some.injEq]
    split
    · rename_i hclears
      simp only [clearProfileDirty, mem_filter, decide_eq_true_eq]
      refine and_congr_right fun _ => ⟨fun hne h => hne h.1.symm, fun hnot heq => hnot ?_⟩
      exact ⟨heq.symm, hclears.1, heq ▸ hclears.2⟩
    · rename_i hkeeps
      refine ⟨fun hdirty => ⟨hdirty, ?_⟩, And.left⟩
      rintro ⟨rfl, hsuccess, hne⟩
      exact hkeeps ⟨hsuccess, hne⟩
  · rename_i result _ _ hother
    refine ⟨fun hdirty => ⟨hdirty, ?_⟩, And.left⟩
    rintro ⟨hname, hsuccess, -⟩
    cases result with
    | action result => exact hother name result hname rfl
    | read result => cases hsuccess
    | list result => cases hsuccess

def Named (w : VaultWorld) : Prop := w.isProfileDirty "" = false

lemma named_step (h : Named w) (hstep : w.step v home a = some w') : Named w' := by
  unfold Named at h ⊢
  rw [Bool.eq_false_iff] at h ⊢
  cases a with
  | issue c =>
    cases hstep
    rw [ne_eq, isProfileDirty_issue]
    rintro (hdirty | ⟨-, hne⟩)
    · exact h hdirty
    · exact hne rfl
  | runBody i =>
    obtain ⟨task, -, -, rfl⟩ := step_runBody hstep
    exact h
  | reply i =>
    obtain ⟨task, result, -, -, -, rfl⟩ := step_reply hstep
    rw [ne_eq, isProfileDirty_onComplete]
    exact fun hdirty => h hdirty.1

lemma dirtyRight_step (h : DirtyRight name w)
    (hP : ClearsOwn name w a) (hstep : w.step v home a = some w') : DirtyRight name w' := by
  cases a with
  | issue c =>
    cases hstep
    intro i task hlast hopen
    rw [(issue_tasks w c).1] at hlast
    rw [isProfileDirty_issue]
    rcases isLast_concat_iff.mp hlast with ⟨-, -, hsaves⟩ | ⟨-, hold⟩
    · exact .inr ⟨hsaves, hP hsaves⟩
    · exact .inl (h i task hold hopen)
  | runBody i =>
    obtain ⟨task, hi, hresult, rfl⟩ := step_runBody hstep
    intro j t hlast hopen
    have hsaves : VaultTask.saves name { task with
        result := some (exec run (task.call.body v home) w.disk).1 } =
        task.saves name := rfl
    rcases (isLast_set_iff hi hsaves).mp hlast with ⟨-, -, hold⟩ | ⟨-, hold⟩
    · refine h i task hold ?_
      unfold VaultTask.completed VaultTask.succeeded
      rw [hresult]
      exact Bool.and_false _
    · exact h j t hold hopen
  | reply i =>
    obtain ⟨task, result, hi, hresult, hreplied, rfl⟩ := step_reply hstep
    intro j t hlast hopen
    have hsaves : VaultTask.saves name { task with replied := true } = task.saves name := rfl
    rw [(onComplete_tasks _ task.call result).1] at hlast
    rw [isProfileDirty_onComplete]
    rcases (isLast_set_iff hi hsaves).mp hlast with ⟨-, rfl, hold⟩ | ⟨hji, hold⟩
    · -- The reply of the last save clears the name only if the save has been completed.
      refine ⟨h i task hold ?_, ?_⟩
      · unfold VaultTask.completed
        rw [hreplied]
        exact Bool.false_and _
      · rintro ⟨-, hsuccess, -⟩
        unfold VaultTask.completed VaultTask.succeeded at hopen
        simp [hresult, hsuccess] at hopen
    · refine ⟨h j t hold hopen, ?_⟩
      rintro ⟨hname, hsuccess, hne⟩
      have hchanged : task.changed name = true := by
        unfold VaultTask.changed VaultTask.succeeded
        simp [hname, hresult, hsuccess]
      rcases hP task hi hreplied hchanged hne j t hold with heq | hdone
      · exact hji heq
      · rw [hopen] at hdone
        cases hdone

lemma not_dirtyRight_step (hnamed : Named w)
    (hP : ¬ ClearsOwn name w a) : ∃ w', w.step v home a = some w' ∧ ¬ DirtyRight name w' := by
  cases a with
  | issue c =>
    obtain ⟨hsaves, hempty⟩ := Classical.not_imp.mp hP
    obtain rfl := not_not.mp hempty
    refine ⟨_, rfl, fun h => ?_⟩
    have hdirty := h w.tasks.length { call := c }
      ((issue_tasks w c).1 ▸ isLast_concat_iff.mpr (.inl ⟨rfl, rfl, hsaves⟩)) rfl
    rw [isProfileDirty_issue, hnamed] at hdirty
    rcases hdirty with hdirty | ⟨-, hne⟩
    · cases hdirty
    · exact hne rfl
  | runBody i => exact absurd trivial hP
  | reply i =>
    simp only [ClearsOwn, not_forall] at hP
    obtain ⟨task, hi, hreplied, hchanged, hne, j, t, hlast, hother⟩ := hP
    rw [not_or] at hother
    obtain ⟨hname, hsucceeded⟩ := Bool.and_eq_true_iff.mp hchanged
    obtain ⟨result, hresult, hsuccess⟩ : ∃ result, task.result = some result ∧
        result.success = true := by
      unfold VaultTask.succeeded at hsucceeded
      cases hresult : task.result with
      | none =>
        rw [hresult] at hsucceeded
        cases hsucceeded
      | some result =>
        rw [hresult] at hsucceeded
        exact ⟨result, rfl, hsucceeded⟩
    have hstep : w.step v home (.reply i) = some ({ w with
        tasks := w.tasks.set i { task with replied := true } }.onComplete task.call result) := by
      obtain ⟨c, r, replied⟩ := task
      cases hresult
      cases hreplied
      simp [step, hi]
    refine ⟨_, hstep, fun h => ?_⟩
    have hsaves : VaultTask.saves name { task with replied := true } = task.saves name := rfl
    have hdirty := h j t (by
      rw [(onComplete_tasks _ task.call result).1]
      exact (isLast_set_iff hi hsaves).mpr (.inr ⟨hother.1, hlast⟩)) (by simpa using hother.2)
    rw [isProfileDirty_onComplete] at hdirty
    exact hdirty.2 ⟨by simpa using hname, hsuccess, hne⟩

end Steps

/-- **Calls for one profile.** If the bodies of the calls run in the order of the calls, and their
writes are whole, then in every state the file is that of the last call that has succeeded. The
profile is dirty in every state in which the last save of it has not been completed, exactly if no
reply clears its name for another save. -/
theorem ordering (v : VaultPrimitives) (home name : String) (disk : FileWorld)
    (actions : List VaultAction) :
    (Along (step v home) (RunsInOrder v home name) { disk := disk } actions →
        Always (step v home) (FileRight v home disk name) { disk := disk } actions) ∧
      (Always (step v home) (DirtyRight name) { disk := disk } actions ↔
        Along (step v home) (ClearsOwn name) { disk := disk } actions) := by
  constructor
  · refine fun h => h.always (fun w a w' hright hP hstep => fileRight_step hright hP hstep) ?_
    exact ⟨fun i task hlast => (nomatch hlast.get), fun _ => rfl⟩
  · refine Along.iff_always (I := Named)
      (fun w a w' hnamed hright hP hstep => ⟨named_step hnamed hstep,
        dirtyRight_step hright hP hstep⟩)
      (fun w a hnamed hright hP => not_dirtyRight_step hnamed hP) actions _ rfl ?_
    exact fun i task hlast => nomatch hlast.get

def racingCalls : List VaultAction :=
  [.issue (.saveProfile sampleA0.profile), .issue (.deleteProfile "a"),
    .runBody 1, .reply 1, .runBody 0, .reply 0]

def racingRun (n : Nat) : Option VaultWorld :=
  (racingCalls.take n).foldlM (step samplePrimitives "/h")
    { disk := ⟨fun _ => none, ["/h"], fun _ => none, fun _ => {}⟩ }

lemma racingRun_isSome : (racingRun 4).isSome = true ∧ (racingRun 6).isSome = true := by
  decide +kernel

def halfRun : VaultWorld := Option.get _ racingRun_isSome.1

def wholeRun : VaultWorld := Option.get _ racingRun_isSome.2

def deletion : VaultTask where
  call := .deleteProfile "a"
  result := some (.action { success := true, path := profilePath "/h" "a" })
  replied := true

/-- **The tasks of two calls** run in the wrong order: the profile is there although the last call has
deleted it, and its name is cleared before it has been saved. -/
theorem ordering_fails :
    (¬ ∀ (v : VaultPrimitives) (home name : String) (disk : FileWorld) (actions : List VaultAction)
        (w : VaultWorld), actions.foldlM (step v home) { disk := disk } = some w →
        (∀ task ∈ w.tasks, task.replied = true) → FileRight v home disk name w) ∧
      ¬ ∀ (v : VaultPrimitives) (home name : String) (disk : FileWorld)
        (actions : List VaultAction),
        Always (step v home) (DirtyRight name) { disk := disk } actions := by
  constructor
  · intro h
    have hright := h samplePrimitives "/h" "a" _ _ wholeRun
      (some_get racingRun_isSome.2).symm (by decide +kernel)
    have hbehind : NoneBehind (VaultTask.changed "a") wholeRun.tasks 1 := by
      intro j task hj htask
      have hlt := (List.getElem?_eq_some_iff.mp htask).1
      rw [show wholeRun.tasks.length = 2 by decide +kernel] at hlt
      omega
    have hdeleted : wholeRun.disk.files (profilePath "/h" "a") = none :=
      hright.last 1 deletion ⟨by decide +kernel, by decide +kernel, hbehind⟩
    revert hdeleted
    decide +kernel
  · intro h
    have hbehind : NoneBehind (VaultTask.saves "a") halfRun.tasks 0 := by
      intro j task hj htask
      have hlt := (List.getElem?_eq_some_iff.mp htask).1
      rw [show halfRun.tasks.length = 2 by decide +kernel] at hlt
      obtain rfl : j = 1 := by omega
      rw [show halfRun.tasks[1]? = some deletion by decide +kernel] at htask
      exact some.inj htask ▸ rfl
    have hdirty := h samplePrimitives "/h" "a" _ racingCalls 4 halfRun
      (some_get racingRun_isSome.1).symm 0 { call := .saveProfile sampleA0.profile }
      ⟨by decide +kernel, by decide +kernel, hbehind⟩ (by decide +kernel)
    revert hdirty
    decide +kernel

end VaultWorld

end CefCore.Browser.AuthVault
