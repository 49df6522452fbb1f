import CefCore.Foundations.Run
import CefCore.Values.World

/-!
# The locks of the controllers

A method of a wrapper locks its controller, and while it holds that lock it may call a method of
another wrapper, which locks the controller of that one. The lock is not re-entrant. Whether two
wrappers have the same controller is not checked anywhere.

## Main results

* `never_relocks_iff`: the calls that lock no controller twice.
-/

namespace CefCore.Values.World

open List Option Fallible

variable {W W' : World}

/-! ### What takes no lock -/

def Quiet {α : Type} (x : Except Fault α) : Prop := x ≠ .error .deadlock

variable {a : Addr} {c w : Nat} {held : List Nat} {pos : Position} {α : Type}

lemma Quiet.bind {β : Type} {x : Except Fault α} {f : α → Except Fault β} (hx : Quiet x)
    (hf : ∀ a, x = .ok a → Quiet (f a)) : Quiet (x >>= f) := by
  intro h
  rcases bind_eq_error_iff.mp h with h | ⟨a, ha, h⟩
  · exact hx h
  · exact hf a ha h

lemma Quiet.pure (a : α) : Quiet (Pure.pure a) := by
  intro h
  cases h

lemma quiet_deref (a : Addr) (type : ValueType) : Quiet (W.deref a type) := by
  unfold deref
  split
  · simp [Quiet]
  · split <;> simp [Quiet]

lemma quiet_notify (ids : List Nat) : Quiet (W.notify ids) := by
  unfold notify
  split <;> simp [Quiet]

lemma quiet_removeReferences (c : Nat) (b : Addr) (kind : Kind) :
    Quiet (W.removeReferences c b kind) := by
  unfold removeReferences
  refine Quiet.bind (quiet_notify _) fun W₁ _ => ?_
  split
  · exact quiet_notify _
  · exact Quiet.pure _

lemma quiet_removeInternal (c : Nat) (a : Addr) (pos : Position) :
    Quiet (W.removeInternal c a pos) := by
  unfold removeInternal
  refine Quiet.bind (quiet_deref a _) fun v _ => ?_
  split
  · exact Quiet.pure _
  · exact Quiet.bind (quiet_removeReferences _ _ _) fun W₁ _ => Quiet.pure _

lemma quiet_setInternal (c : Nat) (a : Addr) (pos : Position) (content : Value) :
    Quiet (W.setInternal c a pos content) := by
  unfold setInternal
  refine Quiet.bind (quiet_removeInternal c a pos) fun r _ => ?_
  refine Quiet.bind (quiet_deref a _) fun v _ => ?_
  dsimp only
  split
  · simp [Quiet]
  · exact Quiet.pure _

/-! ### What takes a lock -/

lemma verify_eq_deadlock_iff (held : List Nat) (w : Nat) (modify : Bool) :
    W.verify held w modify = .error .deadlock ↔
      ∃ c a, (W.wrapper w).attachment = some (c, a) ∧ c ∈ held := by
  unfold verify
  split
  · rename_i h
    simp [h]
  · rename_i c a h
    rw [bind_eq_error_iff]
    constructor
    · rintro (hlock | ⟨held', -, hread⟩)
      · refine ⟨c, a, h, ?_⟩
        unfold lock at hlock
        split at hlock
        · assumption
        · simp at hlock
      · split at hread <;> simp at hread
    · rintro ⟨c', a', h', hmem⟩
      rw [h, some.injEq, Prod.mk.injEq] at h'
      obtain ⟨rfl, -⟩ := h'
      left
      unfold lock
      rw [if_pos hmem]
      rfl

lemma verify_eq_some {held' : List Nat} {modify : Bool}
    (h : W.verify held w modify = .ok (some (c, a, held'))) :
    (W.wrapper w).attachment = some (c, a) ∧ c ∉ held ∧ held' = c :: held ∧
      ((W.wrapper w).readOnly && modify) = false := by
  unfold verify at h
  split at h
  · simp at h
  · rename_i c' a' hattached
    obtain ⟨held'', hlock, hread⟩ := bind_eq_ok_iff.mp h
    unfold lock at hlock
    split at hlock
    · simp at hlock
    · rename_i hmem
      split at hread
      · simp at hread
      · rename_i hmodify
        simp only [pure_eq, Except.ok.injEq, some.injEq, Prod.mk.injEq] at hread hlock
        obtain ⟨rfl, rfl, rfl⟩ := hread
        exact ⟨hattached, hmem, hlock.symm, by simpa using hmodify⟩

lemma copyOrDetachValue_eq_deadlock_iff (held : List Nat) (w c : Nat) :
    W.copyOrDetachValue held w c = .error .deadlock ↔
      ∃ c' a, (W.wrapper w).attachment = some (c', a) ∧ c' ∈ held := by
  rw [← verify_eq_deadlock_iff held w false]
  unfold copyOrDetachValue
  split
  · rw [bind_eq_error_iff]
    refine ⟨fun h => ?_, .inl⟩
    rcases h with h | ⟨r, -, h⟩
    · exact h
    · exfalso
      split at h
      · simp at h
      · split at h
        · simp at h
        · rcases bind_eq_error_iff.mp h with h | ⟨W₁, -, h⟩
          · exact quiet_notify _ h
          · simp at h
  · rw [bind_eq_error_iff]
    refine ⟨fun h => ?_, .inl⟩
    rcases h with h | ⟨r, -, h⟩
    · exact h
    · exfalso
      split at h
      · simp at h
      · rcases bind_eq_error_iff.mp h with h | ⟨v, -, h⟩
        · exact quiet_deref _ _ h
        · simp at h

lemma quiet_destroy (h : ∀ c a, (W.wrapper w).attachment = some (c, a) → c ∉ held) :
    Quiet (W.destroy held w) := by
  unfold destroy
  refine Quiet.bind (fun hlock => ?_) fun r _ => ?_
  · obtain ⟨c, a, hattached, hmem⟩ := (verify_eq_deadlock_iff held w false).mp hlock
    exact h c a hattached hmem
  · split
    · exact Quiet.pure _
    · refine Quiet.bind (quiet_notify _) fun W₁ _ => ?_
      refine Quiet.bind ?_ fun W₂ _ => Quiet.pure _
      unfold deleteValue
      split
      · exact Quiet.bind (quiet_notify _) fun W₃ _ => Quiet.pure _
      · exact Quiet.pure _

/-! ### Attachments -/

def OnlyDetaches (W W' : World) : Prop :=
  W'.wrappers = W.wrappers ∧ ∀ w, (W'.wrapper w).attachment = none ∨
    (W'.wrapper w).attachment = (W.wrapper w).attachment

lemma OnlyDetaches.refl (W : World) : OnlyDetaches W W := ⟨rfl, fun _ => .inr rfl⟩

lemma OnlyDetaches.trans {W'' : World} (h : OnlyDetaches W W') (h' : OnlyDetaches W' W'') :
    OnlyDetaches W W'' := by
  refine ⟨h'.1.trans h.1, fun w => ?_⟩
  rcases h'.2 w with h₂ | h₂
  · exact .inl h₂
  · rw [h₂]
    exact h.2 w

lemma onlyDetaches_notify {ids : List Nat} (h : W.notify ids = .ok W') : OnlyDetaches W W' := by
  unfold notify at h
  split at h
  · cases h
    refine ⟨rfl, fun w => ?_⟩
    dsimp only
    split
    · exact .inl rfl
    · exact .inr rfl
  · simp at h

lemma onlyDetaches_remove {notifyObject : Bool}
    (h : W.remove c a notifyObject = .ok W') : OnlyDetaches W W' :=
  onlyDetaches_notify (W := W.setController c _) h

lemma onlyDetaches_removeDependencies (h : W.removeDependencies c a = .ok W') : OnlyDetaches W W' :=
  onlyDetaches_notify (W := W.setController c _) h

lemma onlyDetaches_removeReferences {b : Addr} {kind : Kind}
    (h : W.removeReferences c b kind = .ok W') : OnlyDetaches W W' := by
  obtain ⟨W₁, hremove, h⟩ := bind_eq_ok_iff.mp h
  refine (onlyDetaches_remove hremove).trans ?_
  split at h
  · exact onlyDetaches_removeDependencies h
  · cases h
    exact OnlyDetaches.refl _

lemma onlyDetaches_removeInternal {r : Bool}
    (h : W.removeInternal c a pos = .ok (r, W')) : OnlyDetaches W W' := by
  obtain ⟨v, -, h⟩ := bind_eq_ok_iff.mp h
  split at h
  · cases h
    exact OnlyDetaches.refl _
  · obtain ⟨W₁, hremove, h⟩ := bind_eq_ok_iff.mp h
    cases h
    have := onlyDetaches_removeReferences hremove
    exact ⟨this.1, this.2⟩

lemma onlyDetaches_setInternal {content : Value}
    {r : Addr × Nat} (h : W.setInternal c a pos content = .ok (r, W')) : OnlyDetaches W W' := by
  obtain ⟨⟨removed, W₁⟩, hremove, h⟩ := bind_eq_ok_iff.mp h
  obtain ⟨v, -, h⟩ := bind_eq_ok_iff.mp h
  dsimp only at h
  split at h
  · simp at h
  · cases h
    have := onlyDetaches_removeInternal hremove
    exact ⟨this.1, this.2⟩

lemma onlyDetaches_copyOrDetachValue {v : Value}
    (h : W.copyOrDetachValue held w c = .ok (v, W')) : OnlyDetaches W W' := by
  unfold copyOrDetachValue at h
  split at h
  · obtain ⟨r, -, h⟩ := bind_eq_ok_iff.mp h
    split at h
    · simp at h
    · split at h
      · simp at h
      · obtain ⟨W₁, hremove, h⟩ := bind_eq_ok_iff.mp h
        cases h
        refine (onlyDetaches_remove (W := World.setController _ _ _) hremove).trans ⟨rfl, fun x => ?_⟩
        by_cases hx : x = w
        · subst hx
          left
          simp [setWrapper, Wrapper.detach]
        · right
          simp [setWrapper, hx]
  · obtain ⟨r, -, h⟩ := bind_eq_ok_iff.mp h
    split at h
    · cases h
      exact OnlyDetaches.refl _
    · obtain ⟨u, -, h⟩ := bind_eq_ok_iff.mp h
      cases h
      exact OnlyDetaches.refl _

/-! ### The methods of the dictionary -/

/-- A method of the dictionary, with other wrappers as arguments. -/
inductive DictOp where
  | isSame (that : Option Nat)
  | isEqual (that : Option Nat)
  | copy (excludeEmptyChildren : Bool)
  | setValue (key : String) (o : Nat) (last : Bool)
  | setBinary (key : String) (arg : Nat)
  | setDictionary (key : String) (arg : Nat)
  | setList (key : String) (arg : Nat)

/-- Call a method of the dictionary `w`. -/
def dictOp (W : World) (w : Nat) : DictOp → Except Fault Unit
  | .isSame that => (W.isSame w that).map fun _ => ()
  | .isEqual that => (W.isEqual w that).map fun _ => ()
  | .copy excludeEmptyChildren => (W.copy w excludeEmptyChildren).map fun _ => ()
  | .setValue key o last => (W.setValue w (.key key) o last).map fun _ => ()
  | .setBinary key arg | .setDictionary key arg | .setList key arg =>
    (W.setObject w (.key key) arg).map fun _ => ()

/-- Both wrappers are attached, to the same controller. -/
def ShareController (W : World) (w w' : Nat) : Prop :=
  ∃ c a a', (W.wrapper w).attachment = some (c, a) ∧ (W.wrapper w').attachment = some (c, a')

/-- The call is contended: a comparison with another wrapper of the same controller, or a change
by a wrapper of the same controller. -/
def DictOp.Contended (W : World) (w : Nat) : DictOp → Prop
  | .isSame that | .isEqual that => ∃ w' ∈ that, w' ≠ w ∧ W.ShareController w w'
  | .copy _ => False
  | .setValue _ o _ =>
    ∃ arg, W.object o = .object arg ∧ (W.wrapper w).readOnly = false ∧ W.ShareController w arg
  | .setBinary _ arg | .setDictionary _ arg | .setList _ arg =>
    (W.wrapper w).readOnly = false ∧ W.ShareController w arg

lemma map_eq_error_iff {β : Type} {x : Except Fault α} {g : α → β} {e : Fault} :
    x.map g = .error e ↔ x = .error e := by
  cases x <;> simp [Except.map]

/-- **The shape of a method**: the receiver's own lock is free, so that a method waits for ever
exactly if the receiver can be used and the rest of the method, with the lock, does. -/
lemma method_eq_deadlock_iff (w : Nat) (modify : Bool) (x : α)
    (f : Nat → Addr → List Nat → Except Fault α) :
    (W.verify [] w modify >>= fun r => match r with
      | none => pure x
      | some (c, a, held) => f c a held) = .error .deadlock ↔
    ∃ c a, (W.wrapper w).attachment = some (c, a) ∧ ((W.wrapper w).readOnly && modify) = false ∧
      f c a [c] = .error .deadlock := by
  rw [bind_eq_error_iff]
  constructor
  · rintro (h | ⟨r, hverify, h⟩)
    · obtain ⟨c, a, -, hmem⟩ := (verify_eq_deadlock_iff [] w modify).mp h
      simp at hmem
    · split at h
      · simp at h
      · rename_i c a held
        obtain ⟨hattached, -, rfl, hmodify⟩ := verify_eq_some hverify
        exact ⟨c, a, hattached, hmodify, h⟩
  · rintro ⟨c, a, hattached, hmodify, h⟩
    refine .inr ⟨some (c, a, [c]), ?_, h⟩
    unfold verify lock
    rw [hattached]
    simp [hmodify, bind, Except.bind]

lemma comparison_eq_deadlock_iff {w' : Nat} {f : Nat → Addr → List Nat → Except Fault Bool}
    (hf : ∀ c a held, f c a held = .error .deadlock ↔
      ∃ c' a', (W.wrapper w').attachment = some (c', a') ∧ c' ∈ held) :
    (if w' = w then pure true
      else W.verify [] w false >>= fun r => match r with
        | none => pure false
        | some (c, a, held) => f c a held) = .error .deadlock ↔
      w' ≠ w ∧ W.ShareController w w' := by
  by_cases hw : w' = w
  · simp [hw]
  · rw [if_neg hw, method_eq_deadlock_iff]
    constructor
    · rintro ⟨c, a, hattached, -, h⟩
      obtain ⟨c', a', hattached', hmem⟩ := (hf c a [c]).mp h
      obtain rfl := mem_singleton.mp hmem
      exact ⟨hw, c', a, a', hattached, hattached'⟩
    · rintro ⟨-, c, a, a', hattached, hattached'⟩
      exact ⟨c, a, hattached, by simp, (hf c a [c]).mpr ⟨c, a', hattached', by simp⟩⟩

lemma isSame_eq_deadlock_iff (w : Nat) (that : Option Nat) :
    W.isSame w that = .error .deadlock ↔ ∃ w' ∈ that, w' ≠ w ∧ W.ShareController w w' := by
  cases that with
  | none => simp [isSame]
  | some w' =>
    simp only [mem_def, some.injEq, exists_eq_left']
    refine comparison_eq_deadlock_iff fun c a held => ?_
    rw [← verify_eq_deadlock_iff held w' false]
    unfold isSameValue
    rw [bind_eq_error_iff]
    refine ⟨fun h => ?_, .inl⟩
    rcases h with h | ⟨r, -, h⟩
    · exact h
    · split at h <;> simp at h

lemma isEqual_eq_deadlock_iff (w : Nat) (that : Option Nat) :
    W.isEqual w that = .error .deadlock ↔ ∃ w' ∈ that, w' ≠ w ∧ W.ShareController w w' := by
  cases that with
  | none => simp [isEqual]
  | some w' =>
    simp only [mem_def, some.injEq, exists_eq_left']
    refine comparison_eq_deadlock_iff fun c a held => ?_
    rw [← verify_eq_deadlock_iff held w' false]
    unfold isEqualValue
    rw [bind_eq_error_iff]
    refine ⟨fun h => ?_, .inl⟩
    rcases h with h | ⟨r, -, h⟩
    · exact h
    · exfalso
      split at h
      · simp at h
      · refine Quiet.bind (quiet_deref _ _) (fun v _ => ?_) h
        exact Quiet.bind (quiet_deref _ _) fun u _ => Quiet.pure _

lemma quiet_copy (w : Nat) (excludeEmptyChildren : Bool) :
    Quiet (W.copy w excludeEmptyChildren) := by
  intro h
  obtain ⟨c, a, -, -, h⟩ := (method_eq_deadlock_iff w false _ _).mp h
  exact Quiet.bind (quiet_deref _ _) (fun v _ => Quiet.pure _) h

lemma change_eq_deadlock_iff {arg : Nat} {x : α}
    {f : Nat → Addr → List Nat → Value × World → Except Fault α}
    (hf : ∀ c a r, W.copyOrDetachValue [c] arg c = .ok r → Quiet (f c a [c] r)) :
    (W.verify [] w true >>= fun r => match r with
      | none => pure x
      | some (c, a, held) => W.copyOrDetachValue held arg c >>= f c a held) = .error .deadlock ↔
      (W.wrapper w).readOnly = false ∧ W.ShareController w arg := by
  refine (method_eq_deadlock_iff w true x fun c a held =>
    W.copyOrDetachValue held arg c >>= f c a held).trans ?_
  constructor
  · rintro ⟨c, a, hattached, hmodify, h⟩
    refine ⟨by simpa using hmodify, ?_⟩
    rcases bind_eq_error_iff.mp h with h | ⟨r, hcopy, h⟩
    · obtain ⟨c', a', hattached', hmem⟩ := (copyOrDetachValue_eq_deadlock_iff [c] arg c).mp h
      obtain rfl := mem_singleton.mp hmem
      exact ⟨c', a, a', hattached, hattached'⟩
    · exact (hf c a r hcopy h).elim
  · rintro ⟨hread, c, a, a', hattached, hattached'⟩
    refine ⟨c, a, hattached, by simp [hread], bind_eq_error_iff.mpr (.inl ?_)⟩
    exact (copyOrDetachValue_eq_deadlock_iff [c] arg c).mpr ⟨c, a', hattached', by simp⟩

lemma setObject_eq_deadlock_iff (w : Nat) (pos : Position) (arg : Nat) :
    W.setObject w pos arg = .error .deadlock ↔
      (W.wrapper w).readOnly = false ∧ W.ShareController w arg := by
  refine change_eq_deadlock_iff fun c a r _ => ?_
  exact Quiet.bind (quiet_setInternal _ _ _ _) fun r _ => Quiet.pure _

lemma quiet_swapValue {o arg cell : Nat} {b parent : Addr} {last : Bool}
    (hlt : arg < W.wrappers) (h : ∀ c a, (W.wrapper arg).attachment = some (c, a) → c ∉ held) :
    Quiet (W.swapValue held o arg c b parent cell last) := by
  unfold swapValue
  dsimp only
  split
  · refine quiet_destroy fun c' a' hattached => h c' a' ?_
    rw [← hattached]
    unfold getOrCreateRef
    split
    · rfl
    · show _ = (Function.update W.wrapper W.wrappers _ arg).attachment
      rw [Function.update_of_ne (Nat.ne_of_lt hlt)]
  · exact Quiet.pure _

lemma setValue_eq_deadlock_iff {o : Nat} {last : Bool}
    (hlt : ∀ arg, W.object o = .object arg → arg < W.wrappers) :
    W.setValue w pos o last = .error .deadlock ↔
      ∃ arg, W.object o = .object arg ∧ (W.wrapper w).readOnly = false ∧ W.ShareController w arg := by
  unfold setValue
  cases hobject : W.object o with
  | invalid =>
    refine (method_eq_deadlock_iff w true (false, W) fun _ _ _ => throw .crash).trans ?_
    simp
  | scalar s =>
    refine (method_eq_deadlock_iff w true _ _).trans ?_
    constructor
    · rintro ⟨c, a, -, -, h⟩
      exact (Quiet.bind (quiet_setInternal _ _ _ _) (fun r _ => Quiet.pure _) h).elim
    · simp
  | object arg =>
    simp only [CefValueImpl.object.injEq, exists_eq_left']
    refine change_eq_deadlock_iff fun c a r hcopy => ?_
    refine Quiet.bind (quiet_setInternal _ _ _ _) fun r' hset => ?_
    refine Quiet.bind ?_ fun W' _ => Quiet.pure _
    have hcopied := onlyDetaches_copyOrDetachValue (v := r.1) hcopy
    have hkept := hcopied.trans (onlyDetaches_setInternal (r := r'.1) hset)
    refine quiet_swapValue (hkept.1 ▸ hlt arg hobject) fun c' a' hattached hmem => ?_
    obtain rfl := mem_singleton.mp hmem
    rcases hkept.2 arg with hnone | hsame
    · rw [hnone] at hattached
      simp at hattached
    · rw [hsame] at hattached
      have := (copyOrDetachValue_eq_deadlock_iff [c'] arg c').mpr ⟨c', a', hattached, by simp⟩
      rw [this] at hcopy
      simp at hcopy

/-- **The lock discipline.** For every set of wrappers, a method of the dictionary does not wait
for a lock that its thread holds if and only if it is not contended. -/
theorem never_relocks_iff (W : World) (w : Nat) (op : DictOp)
    (hlt : ∀ key o last, op = .setValue key o last →
      ∀ arg, W.object o = .object arg → arg < W.wrappers) :
    W.dictOp w op ≠ .error .deadlock ↔ ¬ op.Contended W w := by
  refine not_congr ?_
  cases op with
  | isSame that => exact map_eq_error_iff.trans (isSame_eq_deadlock_iff w that)
  | isEqual that => exact map_eq_error_iff.trans (isEqual_eq_deadlock_iff w that)
  | copy excludeEmptyChildren =>
    exact map_eq_error_iff.trans (iff_of_false (quiet_copy w excludeEmptyChildren) id)
  | setValue key o last =>
    exact map_eq_error_iff.trans (setValue_eq_deadlock_iff (hlt key o last rfl))
  | setBinary key arg => exact map_eq_error_iff.trans (setObject_eq_deadlock_iff w (.key key) arg)
  | setDictionary key arg =>
    exact map_eq_error_iff.trans (setObject_eq_deadlock_iff w (.key key) arg)
  | setList key arg => exact map_eq_error_iff.trans (setObject_eq_deadlock_iff w (.key key) arg)

/-- Two dictionaries, and a `CefValueImpl` that holds the second. -/
def twoRoots : World :=
  ((World.new.create .dictionary []).create .dictionary []).newObject (.object 1)

theorem never_relocks_twoRoots : twoRoots.dictOp 0 (.setValue "a" 0 true) ≠ .error .deadlock := by
  refine (never_relocks_iff twoRoots 0 (.setValue "a" 0 true) fun key o last hop arg harg => ?_).mpr ?_
  · obtain ⟨rfl, rfl, rfl⟩ := DictOp.setValue.inj hop
    obtain rfl : 1 = arg := CefValueImpl.object.inj harg
    decide
  · rintro ⟨arg, harg, -, c, a, a', hattached, hattached'⟩
    obtain rfl : 1 = arg := CefValueImpl.object.inj harg
    obtain rfl : 0 = c := congrArg Prod.fst (some.inj hattached)
    have hone : 1 = 0 := congrArg Prod.fst (some.inj hattached')
    exact Nat.one_ne_zero hone

/-- A dictionary and a reference into it, compared and added to the dictionary. -/
theorem shared_controller_deadlocks :
    ¬ ∀ (ops : List Op) (W : World), ops.foldlM step World.new = .ok W → ∀ w op,
      W.dictOp w op ≠ .error .deadlock := by
  intro h
  refine h [.create .dictionary [], .create .dictionary [], .setObject 0 (.key "a") 1,
    .getRef 0 (.key "a") .dictionary] _ rfl 0 (.isSame (some 2)) ?_
  rfl

end CefCore.Values.World
