import CefCore.Foundations.Run
import CefCore.Foundations.SnapshotLog

/-!
# The cross-origin whitelist

`CefOriginWhitelistManager` of `libcef/browser/origin_whitelist_impl.cc` has the entries of the
whitelist. The render processes have copies of them: `CefRenderManager` of
`libcef/renderer/render_manager.cc` asks for all entries when its thread is connected, and is told of
every change. It hands the entries on to `blink::WebSecurityPolicy`, which can only forget all entries
of an origin at once.

## Main results

* `allows_no_more`, `allows_no_less`: when a copy allows what the list has.

## Implementation notes

* The origin of a URL, and whether a URL is valid, are parameters.
* The manager is used on the UI thread; a call from another thread is made there later. The list is
  changed under the lock, and the messages are sent behind it. A process may ask for the list in between.
* A message has a pipe of its own. Messages may arrive in any order, but not before the process has
  got the list.
-/

namespace CefCore.Browser

open List Option Change Transition

/-- `cef::mojom::CrossOriginWhiteListEntry`. -/
structure CrossOriginWhiteListEntry where
  sourceOrigin : String
  targetProtocol : String
  targetDomain : String
  allowTargetSubdomains : Bool
deriving DecidableEq

abbrev CrossOriginWhiteList := List CrossOriginWhiteListEntry

/-- The messages of `cef::mojom::RenderManager`. -/
inductive RenderManagerMessage where
  | modifyCrossOriginWhitelistEntry (add : Bool) (entry : CrossOriginWhiteListEntry)
  | clearCrossOriginWhitelist

/-- A render process, with the messages that have not arrived, the oldest one first. -/
structure RenderProcess where
  id : Nat
  /-- The list of `blink::WebSecurityPolicy`, if the thread is connected. -/
  allowList : Option CrossOriginWhiteList := none
  messages : List RenderManagerMessage := []

/-- The manager and the render processes. -/
structure OriginWhitelist where
  originList : CrossOriginWhiteList := []
  /-- The messages of the last change that have not been sent yet. -/
  sending : Option RenderManagerMessage := none
  processes : List RenderProcess := []
  nextId : Nat := 0

/-- What is done with URLs. -/
structure UrlParser (Origin : Type) where
  isValid : String → Bool
  origin : String → Origin

namespace OriginWhitelist

variable {Origin : Type} [DecidableEq Origin] (urls : UrlParser Origin)

/-! ### The manager in the browser process -/

/-- `AddOriginEntry`. -/
def addOriginEntry (info : CrossOriginWhiteListEntry) (w : OriginWhitelist) :
    Bool × OriginWhitelist :=
  if info ∈ w.originList then (false, w)
  else
    (true, { w with
      originList := w.originList ++ [info]
      sending := some (.modifyCrossOriginWhitelistEntry true info) })

/-- `RemoveOriginEntry`. -/
def removeOriginEntry (info : CrossOriginWhiteListEntry) (w : OriginWhitelist) :
    Bool × OriginWhitelist :=
  if info ∈ w.originList then
    (true, { w with
      originList := w.originList.erase info
      sending := some (.modifyCrossOriginWhitelistEntry false info) })
  else (false, w)

/-- `ClearOrigins`. -/
def clearOrigins (w : OriginWhitelist) : OriginWhitelist :=
  { w with originList := [], sending := some .clearCrossOriginWhitelist }

/-- `CefAddCrossOriginWhitelistEntry`. -/
def cefAddCrossOriginWhitelistEntry (info : CrossOriginWhiteListEntry) (w : OriginWhitelist) :
    Bool × OriginWhitelist :=
  if urls.isValid info.sourceOrigin then w.addOriginEntry info else (false, w)

/-- `CefRemoveCrossOriginWhitelistEntry`. -/
def cefRemoveCrossOriginWhitelistEntry (info : CrossOriginWhiteListEntry) (w : OriginWhitelist) :
    Bool × OriginWhitelist :=
  if urls.isValid info.sourceOrigin then w.removeOriginEntry info else (false, w)

/-- `SendModifyCrossOriginWhitelistEntry` and `SendClearCrossOriginWhitelist`. -/
def send (m : RenderManagerMessage) (w : OriginWhitelist) : OriginWhitelist :=
  { w with
    sending := none
    processes := w.processes.map fun p => { p with messages := p.messages ++ [m] } }

/-! ### The render manager -/

/-- `CefRenderManager::ModifyCrossOriginWhitelistEntry`. -/
def modifyCrossOriginWhitelistEntry (add : Bool) (entry : CrossOriginWhiteListEntry)
    (allowList : CrossOriginWhiteList) : CrossOriginWhiteList :=
  if add then allowList ++ [entry]
  else
    -- `ClearOriginAccessListForOrigin` does not look at the other members
    allowList.filter fun x => urls.origin x.sourceOrigin ≠ urls.origin entry.sourceOrigin

def receive (allowList : CrossOriginWhiteList) : RenderManagerMessage → CrossOriginWhiteList
  | .modifyCrossOriginWhitelistEntry add entry =>
    modifyCrossOriginWhitelistEntry urls add entry allowList
  | .clearCrossOriginWhitelist => []

/-- `WebKitInitialized`, with the entries that `GetNewRenderThreadInfo` has returned. -/
def webKitInitialized (entries : CrossOriginWhiteList) : CrossOriginWhiteList :=
  entries.foldl (fun l entry => modifyCrossOriginWhitelistEntry urls true entry l) []

/-! ### Steps -/

inductive Action where
  | add (info : CrossOriginWhiteListEntry)
  | remove (info : CrossOriginWhiteListEntry)
  | clear
  | send
  | create
  | connect (i : Nat)
  | deliver (i k : Nat)
  | destroy (i : Nat)
deriving DecidableEq

/-- While a change is being sent the UI thread does nothing else. -/
def step (w : OriginWhitelist) : Action → Option OriginWhitelist
  | .add info =>
    if w.sending = none then some (w.cefAddCrossOriginWhitelistEntry urls info).2 else none
  | .remove info =>
    if w.sending = none then some (w.cefRemoveCrossOriginWhitelistEntry urls info).2 else none
  | .clear => if w.sending = none then some w.clearOrigins else none
  | .send => w.sending.map w.send
  | .create =>
    if w.sending = none then
      some { w with processes := w.processes ++ [{ id := w.nextId }], nextId := w.nextId + 1 }
    else none
  | .connect i => do
    let p ← w.processes[i]?
    if p.allowList = none then
      some { w with
        processes :=
          w.processes.set i { p with allowList := some (webKitInitialized urls w.originList) } }
    else none
  | .deliver i k => do
    let p ← w.processes[i]?
    let allowList ← p.allowList
    let m ← p.messages[k]?
    some { w with
      processes := w.processes.set i
        ⟨p.id, some (receive urls allowList m), p.messages.eraseIdx k⟩ }
  | .destroy i =>
    if w.sending = none then some { w with processes := w.processes.eraseIdx i } else none

/-! ### What a step can do -/

/-- An entry is added or removed, or all entries are: the message, and the list behind it. -/
inductive Changes (w : OriginWhitelist) :
    Action → RenderManagerMessage → CrossOriginWhiteList → Prop
  | add (info) (hnew : info ∉ w.originList) :
      Changes w (.add info) (.modifyCrossOriginWhitelistEntry true info) (w.originList ++ [info])
  | remove (info) (hmem : info ∈ w.originList) :
      Changes w (.remove info) (.modifyCrossOriginWhitelistEntry false info)
        (w.originList.erase info)
  | clear : Changes w .clear .clearCrossOriginWhitelist []

inductive Moves (w : OriginWhitelist) : Action → OriginWhitelist → Prop
  /-- The call returns false. -/
  | refused (a) : Moves w a w
  | changed {a} (m originList) (hidle : w.sending = none) (h : Changes w a m originList) :
      Moves w a { w with originList, sending := some m }
  | sent (m) (h : w.sending = some m) : Moves w .send (w.send m)
  | created (hidle : w.sending = none) :
      Moves w .create
        { w with processes := w.processes ++ [{ id := w.nextId }], nextId := w.nextId + 1 }
  | connected (i p) (hp : p ∈ w.processes) (hnew : p.allowList = none) :
      Moves w (.connect i)
        { w with processes := w.processes.set i { p with allowList := some w.originList } }
  | delivered (i k p allowList m) (hp : p ∈ w.processes) (hconnected : p.allowList = some allowList)
      (hm : p.messages[k]? = some m) :
      Moves w (.deliver i k)
        { w with
          processes := w.processes.set i
            ⟨p.id, some (receive urls allowList m), p.messages.eraseIdx k⟩ }
  | destroyed (i) : Moves w (.destroy i) { w with processes := w.processes.eraseIdx i }

lemma webKitInitialized_eq (entries : CrossOriginWhiteList) :
    webKitInitialized urls entries = entries := by
  have hfold : ∀ l, entries.foldl (fun l entry =>
      modifyCrossOriginWhitelistEntry urls true entry l) l = l ++ entries := by
    induction entries with
    | nil => simp
    | cons entry entries ih =>
      intro l
      rw [foldl_cons, ih]
      simp [modifyCrossOriginWhitelistEntry]
  exact hfold []

variable {urls}
variable {w w' : OriginWhitelist} {a : Action} {x : CrossOriginWhiteListEntry}

lemma step_moves (h : w.step urls a = some w') : Moves urls w a w' := by
  cases a with
  | add info =>
    obtain ⟨hidle, ⟨⟩⟩ := ite_none_right_eq_some.mp h
    unfold cefAddCrossOriginWhitelistEntry addOriginEntry
    split
    · split
      · exact .refused _
      · exact .changed _ _ hidle (.add info ‹_›)
    · exact .refused _
  | remove info =>
    obtain ⟨hidle, ⟨⟩⟩ := ite_none_right_eq_some.mp h
    unfold cefRemoveCrossOriginWhitelistEntry removeOriginEntry
    split
    · split
      · exact .changed _ _ hidle (.remove info ‹_›)
      · exact .refused _
    · exact .refused _
  | clear =>
    obtain ⟨hidle, ⟨⟩⟩ := ite_none_right_eq_some.mp h
    exact .changed _ _ hidle .clear
  | send =>
    obtain ⟨m, hm, rfl⟩ := map_eq_some_iff.mp h
    exact .sent m hm
  | create =>
    obtain ⟨hidle, ⟨⟩⟩ := ite_none_right_eq_some.mp h
    exact .created hidle
  | connect i =>
    obtain ⟨p, hp, h⟩ := bind_eq_some_iff.mp h
    obtain ⟨hnew, ⟨⟩⟩ := ite_none_right_eq_some.mp h
    rw [webKitInitialized_eq]
    exact .connected i p (mem_of_getElem? hp) hnew
  | deliver i k =>
    obtain ⟨p, hp, h⟩ := bind_eq_some_iff.mp h
    obtain ⟨allowList, hconnected, h⟩ := bind_eq_some_iff.mp h
    obtain ⟨m, hm, h⟩ := bind_eq_some_iff.mp h
    cases h
    exact .delivered i k p allowList m (mem_of_getElem? hp) hconnected hm
  | destroy i =>
    obtain ⟨-, ⟨⟩⟩ := ite_none_right_eq_some.mp h
    exact .destroyed i

/-! ### Copies -/

variable (urls) in
/-- What the message does to the list of a render process. -/
def change : RenderManagerMessage → Change CrossOriginWhiteListEntry
  | .modifyCrossOriginWhitelistEntry true entry => ⟨fun _ => false, [entry]⟩
  | .modifyCrossOriginWhitelistEntry false entry =>
    ⟨fun x => urls.origin x.sourceOrigin = urls.origin entry.sourceOrigin, []⟩
  | .clearCrossOriginWhitelist => ⟨fun _ => true, []⟩

lemma receive_eq (allowList : CrossOriginWhiteList) (m : RenderManagerMessage) :
    receive urls allowList m = (change urls m).apply allowList := by
  cases m with
  | modifyCrossOriginWhitelistEntry add entry =>
    cases add <;> simp [receive, modifyCrossOriginWhitelistEntry, change, Change.apply]
  | clearCrossOriginWhitelist => simp [receive, change, Change.apply]

variable (urls w) in
/-- The changes that a process is going to make. -/
def log (p : RenderProcess) : List (Change CrossOriginWhiteListEntry) :=
  (p.messages ++ w.sending.toList).map (change urls)

variable (urls) in
/-- A property of the list and of the id, the copy and the log of each process. -/
def AllCopies (R : CrossOriginWhiteList → Nat → Option CrossOriginWhiteList →
    List (Change CrossOriginWhiteListEntry) → Prop) (w : OriginWhitelist) : Prop :=
  ∀ p ∈ w.processes, R w.originList p.id p.allowList (w.log urls p)

/-- The messages to a process arrive in the order in which they were sent. -/
def Action.InOrder : Action → Prop
  | .deliver _ k => k = 0
  | _ => True

instance : DecidablePred Action.InOrder := fun a =>
  match a with
  | .deliver _ k => inferInstanceAs (Decidable (k = 0))
  | .add _ | .remove _ | .clear | .send | .create | .connect _ | .destroy _ => isTrue trivial

/-- **The step rule for copies**: what the list and a copy have to do with each other is kept by a
change of both, by the snapshot, and by the arrival of the oldest message. -/
theorem AllCopies.step {R : CrossOriginWhiteList → Nat → Option CrossOriginWhiteList →
      List (Change CrossOriginWhiteListEntry) → Prop}
    (h : AllCopies urls R w) (hm : Moves urls w a w') (horder : a.InOrder)
    (hchange : ∀ m l, Changes w a m l → ∀ id copy log, R w.originList id copy log →
      R l id copy (log ++ [change urls m])) (hcreate : R w.originList w.nextId none [])
    (hconnect : ∀ id log, R w.originList id none log → R w.originList id (some w.originList) log)
    (hdeliver : ∀ id copy c log, R w.originList id (some copy) (c :: log) →
      R w.originList id (some (c.apply copy)) log) : AllCopies urls R w' := by
  have hset : ∀ {i p'}, R w.originList p'.id p'.allowList (w.log urls p') →
      AllCopies urls R { w with processes := w.processes.set i p' } := by
    intro i p' hp' p hp
    rcases mem_or_eq_of_mem_set hp with hp | rfl
    · exact h p hp
    · exact hp'
  cases hm with
  | refused => exact h
  | changed m l hidle hc =>
    intro p hp
    have hlog : log urls { w with originList := l, sending := some m } p =
        w.log urls p ++ [change urls m] := by simp [log, hidle]
    rw [hlog]
    exact hchange m l hc _ _ _ (h p hp)
  | sent m hsending =>
    intro p' hp'
    obtain ⟨p, hp, rfl⟩ := mem_map.mp hp'
    have hlog : (w.send m).log urls { p with messages := p.messages ++ [m] } = w.log urls p := by
      simp [log, send, hsending]
    rw [hlog]
    exact h p hp
  | created hidle =>
    intro p hp
    rcases mem_append.mp hp with hp | hp
    · exact h p hp
    · obtain rfl := mem_singleton.mp hp
      simpa [log, hidle] using hcreate
  | connected i p hp hnew =>
    refine hset (hconnect _ _ ?_)
    rw [← hnew]
    exact h p hp
  | delivered i k p copy m hp hconnected hmessage =>
    obtain rfl : k = 0 := horder
    refine hset ?_
    obtain ⟨rest, hrest⟩ : ∃ rest, p.messages = m :: rest := by
      cases hmessages : p.messages with
      | nil => simp [hmessages] at hmessage
      | cons m' rest =>
        simp only [hmessages, getElem?_cons_zero, some.injEq] at hmessage
        exact ⟨rest, by rw [hmessage]⟩
    have hold := h p hp
    rw [hconnected, log, hrest] at hold
    rw [receive_eq, log, hrest]
    exact hdeliver _ _ _ _ hold
  | destroyed i => exact fun p hp => h p (mem_of_mem_eraseIdx hp)

/-! ### What a render process allows -/

variable {acts : List Action} {p : RenderProcess} {copy : CrossOriginWhiteList}

lemma Changes.nodup {m l} (h : Changes w a m l) (hw : w.originList.Nodup) : l.Nodup := by
  cases h with
  | add info hnew => simpa [nodup_append, hw] using fun x hx => ne_of_mem_of_not_mem hx hnew
  | remove info hmem => exact hw.erase info
  | clear => exact nodup_nil

lemma Moves.nodup (h : Moves urls w a w') (hw : w.originList.Nodup) : w'.originList.Nodup := by
  cases h with
  | changed m l hidle hc => exact hc.nodup hw
  | _ => exact hw

/-- An element of the log is the change of a message that has not arrived. -/
lemma mem_log {c : Change CrossOriginWhiteListEntry} :
    c ∈ w.log urls p ↔ ∃ m ∈ p.messages ++ w.sending.toList, change urls m = c :=
  mem_map

lemma Changes.sound {m l base log} (hc : Changes w a m l)
    (h : Change.Sound w.originList base log) : Change.Sound l base (log ++ [change urls m]) := by
  cases hc with
  | add info hnew =>
    exact h.change (fun x hx _ => mem_append_left _ hx) fun x hx => mem_append_right _ hx
  | remove info hmem =>
    refine h.change (fun x hx hstrikes => ?_) fun x hx => absurd hx not_mem_nil
    refine (mem_erase_of_ne ?_).mpr hx
    rintro rfl
    simp [change] at hstrikes
  | clear =>
    exact h.change (fun x _ hstrikes => absurd hstrikes.symm Bool.false_ne_true)
      fun x hx => absurd hx not_mem_nil

/-- **No render process allows more than the manager does**, if its messages arrive in their order:
an entry that it has and the manager has not is struck out by a message that is on its way.

**Proof sketch.** A process that removes an entry removes at least that entry. What it has before
its list comes the manager has as well. -/
theorem allows_no_more (h : acts.foldlM (step urls) {} = some w)
    (horder : Along (step urls) (fun _ a => a.InOrder) {} acts)
    (hp : p ∈ w.processes) (hcopy : p.allowList = some copy) (hx : x ∈ copy) :
    x ∈ w.originList ∨
      ∃ m ∈ p.messages ++ w.sending.toList, (change urls m).strikes x = true := by
  have hsound : AllCopies urls (fun l _ copy log => Change.Sound l (copy.getD []) log) w := by
    refine Along.invariant (P := fun _ a => a.InOrder) ?_ acts {} w
      (fun _ hp => absurd hp not_mem_nil) horder h
    intro w a w' hw ha hs
    refine hw.step (step_moves hs) ha ?_ (fun x hx => absurd hx not_mem_nil)
      (fun _ _ h => h.snapshot) fun _ _ _ _ h => h
    exact fun m l hc _ _ _ hsound => hc.sound hsound
  have hcopies := hsound p hp
  rw [hcopy] at hcopies
  exact (hcopies.mem hx).imp_right fun ⟨c, hc, hstrikes⟩ => by
    obtain ⟨m, hm, rfl⟩ := mem_log.mp hc
    exact ⟨m, hm, hstrikes⟩

def sampleUrls : UrlParser String := ⟨fun _ => true, id⟩

def sampleEntry (targetDomain : String) : CrossOriginWhiteListEntry :=
  ⟨"http://a", "http", targetDomain, false⟩

/-- The process asks for the list when it has not been told of an entry. -/
def connectedLate : List Action := [.create, .add (sampleEntry "b"), .connect 0, .send]

def latecomer : RenderProcess :=
  ⟨0, some [sampleEntry "b"], [.modifyCrossOriginWhitelistEntry true (sampleEntry "b")]⟩

def listedTwice : OriginWhitelist :=
  ⟨[sampleEntry "b"], none, [latecomer], 1⟩

lemma connectedLate_run : connectedLate.foldlM (step sampleUrls) {} = some listedTwice :=
  rfl

theorem allows_no_more_late : sampleEntry "b" ∈ listedTwice.originList ∨
    ∃ m ∈ latecomer.messages ++ listedTwice.sending.toList,
      (change sampleUrls m).strikes (sampleEntry "b") = true :=
  allows_no_more connectedLate_run (by decide) mem_cons_self rfl mem_cons_self

variable (urls) in
/-- No other entry of its origin is there when an entry of the list is removed. -/
def Action.Alone (w : OriginWhitelist) : Action → Prop
  | .remove info => info ∈ w.originList → ∀ x ∈ w.originList,
      urls.origin x.sourceOrigin = urls.origin info.sourceOrigin → x = info
  | _ => True

instance (w : OriginWhitelist) : DecidablePred (Action.Alone urls w) := fun a =>
  match a with
  | .remove info => inferInstanceAs (Decidable (info ∈ w.originList → ∀ x ∈ w.originList,
      urls.origin x.sourceOrigin = urls.origin info.sourceOrigin → x = info))
  | .add _ | .clear | .send | .create | .connect _ | .deliver _ _ | .destroy _ => isTrue trivial

/-- What the manager has after a change is what the change leaves, if it is alone. -/
lemma Changes.mem_or {m l} (hc : Changes w a m l) (hw : w.originList.Nodup)
    (ha : a.Alone urls w) (hx : x ∈ l) :
    (x ∈ w.originList ∧ (change urls m).strikes x = false) ∨ x ∈ (change urls m).adds := by
  cases hc with
  | add info hnew => exact (mem_append.mp hx).imp_left fun hx => ⟨hx, rfl⟩
  | remove info hmem =>
    obtain ⟨hne, hx⟩ := hw.mem_erase_iff.mp hx
    exact .inl ⟨hx, decide_eq_false fun horigin => hne (ha hmem x hx horigin)⟩
  | clear => exact absurd hx not_mem_nil

/-- **Every render process allows what the manager does**, if moreover each entry that is removed is
the only one of its origin then: an entry that it has not is added by a message that is on its way.

**Proof sketch.** Until its list comes, a process is treated as if the list of the manager had come
at the beginning: messages may add entries twice. -/
theorem allows_no_less (h : acts.foldlM (step urls) {} = some w)
    (horder : Along (step urls) (fun w a => a.InOrder ∧ a.Alone urls w) {} acts)
    (hp : p ∈ w.processes) (hcopy : p.allowList = some copy) (hx : x ∈ w.originList) :
    x ∈ copy ∨ .modifyCrossOriginWhitelistEntry true x ∈ p.messages ++ w.sending.toList := by
  have hinv : w.originList.Nodup ∧
      AllCopies urls (fun l _ copy log => Change.Complete l (copy.getD l) log) w := by
    refine Along.invariant (P := fun w a => a.InOrder ∧ a.Alone urls w)
      (I := fun w => w.originList.Nodup ∧
        AllCopies urls (fun l _ copy log => Change.Complete l (copy.getD l) log) w) ?_ acts {} w
      ⟨nodup_nil, fun _ hp => absurd hp not_mem_nil⟩ horder h
    intro w a w' ⟨hnodup, hw⟩ ⟨ha, halone⟩ hs
    have hm := step_moves hs
    refine ⟨hm.nodup hnodup, hw.step hm ha ?_ (fun x hx => hx) (fun _ _ h => h) fun _ _ _ _ h => h⟩
    intro m l hc id copy log hcomplete
    have hl := fun x => hc.mem_or (x := x) hnodup halone
    cases copy with
    | none => exact hcomplete.snapshot hl
    | some copy => exact hcomplete.change hl
  have hcomplete := hinv.2 p hp
  rw [hcopy] at hcomplete
  refine (hcomplete.mem hx).imp_right fun ⟨c, hc, hadds⟩ => ?_
  obtain ⟨m, hm, rfl⟩ := mem_log.mp hc
  cases m with
  | modifyCrossOriginWhitelistEntry add entry =>
    cases add with
    | true => exact mem_singleton.mp hadds ▸ hm
    | false => exact absurd hadds not_mem_nil
  | clearCrossOriginWhitelist => exact absurd hadds not_mem_nil

theorem allows_no_less_late : sampleEntry "b" ∈ [sampleEntry "b"] ∨
    .modifyCrossOriginWhitelistEntry true (sampleEntry "b") ∈
      latecomer.messages ++ listedTwice.sending.toList :=
  allows_no_less connectedLate_run (by decide) (p := latecomer) mem_cons_self rfl
    mem_cons_self

variable {old : Nat}

variable (urls x old) in
/-- The entry is in the list, and each process with an id below `old` is going to be without it. -/
structure Lost (w : OriginWhitelist) : Prop where
  mem : x ∈ w.originList
  le : old ≤ w.nextId
  copies : AllCopies urls
    (fun _ id copy log => id < old → x ∉ Change.replay (copy.getD [x]) log) w

lemma Lost.step (h : Lost urls x old w) (hm : Moves urls w a w') (horder : a.InOrder)
    (hremove : a ≠ .remove x) (hclear : a ≠ .clear) : Lost urls x old w' where
  mem := by
    cases hm with
    | changed m l _ hc =>
      cases hc with
      | add info _ => exact mem_append_left _ h.mem
      | remove info _ =>
        exact (mem_erase_of_ne fun heq => hremove (congrArg _ heq.symm)).mpr h.mem
      | clear => exact absurd rfl hclear
    | _ => exact h.mem
  le := by
    cases hm with
    | created => exact Nat.le_succ_of_le h.le
    | _ => exact h.le
  copies := by
    refine h.copies.step hm horder ?_ (fun hlt => absurd hlt (Nat.not_lt.mpr h.le)) ?_
      fun _ _ _ _ h => h
    · intro m l hc id copy log hlost hid
      rw [replay_concat, mem_apply]
      rintro (⟨hx, -⟩ | hadds)
      · exact hlost hid hx
      · cases hc with
        -- the manager does not add an entry that it has
        | add info hnew => exact hnew (mem_singleton.mp hadds ▸ h.mem)
        | remove info _ => exact not_mem_nil hadds
        | clear => exact not_mem_nil hadds
    · intro id log hlost hid hx
      refine hlost hid (mem_replay.mpr ((mem_replay.mp hx).imp_left fun hx => ?_))
      exact ⟨mem_singleton_self x, hx.2⟩

/-- **A removal takes the whole origin away**: another entry of the origin stays in the list, and no
render process that is there when the removal is asked for allows it again until it is removed itself.

**Proof sketch.** The entry is struck out in each of these processes, whether or not its list has come,
and no step changes that (`Lost.step`). -/
theorem removal_takes_origin {info : CrossOriginWhiteListEntry} (hidle : w.sending = none)
    (hvalid : urls.isValid info.sourceOrigin = true)
    (hinfo : info ∈ w.originList) (hx : x ∈ w.originList) (hne : x ≠ info)
    (horigin : urls.origin x.sourceOrigin = urls.origin info.sourceOrigin)
    (h : (.remove info :: acts).foldlM (step urls) w = some w')
    (horder : Along (step urls)
      (fun _ a => a.InOrder ∧ a ≠ .remove x ∧ a ≠ .clear) w (.remove info :: acts)) :
    x ∈ w'.originList ∧ ∀ p ∈ w'.processes, p.id < w.nextId → ∀ copy, p.allowList = some copy →
      x ∈ copy → ∃ m ∈ p.messages ++ w'.sending.toList, (change urls m).strikes x = true := by
  have hstep : step urls w (.remove info) = some { w with
      originList := w.originList.erase info
      sending := some (.modifyCrossOriginWhitelistEntry false info) } := by
    simp [step, hidle, cefRemoveCrossOriginWhitelistEntry, hvalid, removeOriginEntry, hinfo]
  rw [foldlM_cons, hstep] at h
  have hremoved : Lost urls x w.nextId { w with
      originList := w.originList.erase info
      sending := some (.modifyCrossOriginWhitelistEntry false info) } := by
    refine ⟨(mem_erase_of_ne hne).mpr hx, Nat.le_refl _, fun p _ _ => ?_⟩
    have hlog : log urls { w with
          originList := w.originList.erase info
          sending := some (.modifyCrossOriginWhitelistEntry false info) } p =
        p.messages.map (change urls) ++
          [change urls (.modifyCrossOriginWhitelistEntry false info)] := by simp [log]
    rw [hlog, replay_concat, mem_apply]
    simp [change, horigin]
  have hlost : Lost urls x w.nextId w' :=
    Along.invariant (P := fun _ a => a.InOrder ∧ a ≠ .remove x ∧ a ≠ .clear)
      (fun _ _ _ hlost ha hs => hlost.step (step_moves hs) ha.1 ha.2.1 ha.2.2)
      acts _ w' hremoved (horder.cons hstep).2 h
  refine ⟨hlost.mem, fun p hp hold copy hcopy hmem => ?_⟩
  by_contra hnone
  refine hlost.copies p hp hold (mem_replay.mpr (.inl ⟨hcopy ▸ hmem, fun c hc => ?_⟩))
  obtain ⟨m, hm, rfl⟩ := mem_log.mp hc
  simpa using fun hstrikes => hnone ⟨m, hm, hstrikes⟩

def samplePair : OriginWhitelist :=
  ⟨[sampleEntry "b", sampleEntry "c"], none, [⟨0, some [sampleEntry "b", sampleEntry "c"], []⟩,
    ⟨1, some [sampleEntry "b", sampleEntry "c"], []⟩], 2⟩

/-- Of two processes, the first one has been told of the removal. -/
theorem removal_takes_origin_pair : ∃ w',
    [.remove (sampleEntry "b"), .send, .deliver 0 0].foldlM (step sampleUrls) samplePair = some w' ∧
    w'.processes.map (·.allowList) = [some [], some [sampleEntry "b", sampleEntry "c"]] ∧
    sampleEntry "c" ∈ w'.originList ∧
    ∀ p ∈ w'.processes, p.id < 2 → ∀ copy, p.allowList = some copy → sampleEntry "c" ∈ copy →
      ∃ m ∈ p.messages ++ w'.sending.toList,
        (change sampleUrls m).strikes (sampleEntry "c") = true := by
  refine ⟨_, rfl, by decide, ?_⟩
  exact @removal_takes_origin _ _ _ samplePair _ (sampleEntry "c") [.send, .deliver 0 0]
    (sampleEntry "b") rfl rfl (by decide) (by decide) (by decide) rfl rfl (by decide)

end OriginWhitelist

end CefCore.Browser
