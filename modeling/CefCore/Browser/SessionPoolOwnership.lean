import CefCore.Browser.SessionPool
import Mathlib.Data.List.Nodup

/-!
# Who owns a pooled context

A context is in the pool, or it has been handed out, or the pool knows nothing of it. `Release`
does not ask which of these is the case, and a call of `Acquire` that fails to create a context is
counted like one that has handed one out.

## Main results

* `owned_iff_careful`: the runs in which the pool counts what is there.
-/

namespace CefCore.Browser.PoolWorld

open List Option Nat Transition

variable {w w' : PoolWorld}

def pooled (w : PoolWorld) : List RequestContext := w.pool.available.map PoolEntry.context

/-- **Ownership**: no context is in the pool twice or has been handed out to two callers, the pool
has at most its size, and the contexts in use are counted. -/
structure Owned (w : PoolWorld) : Prop where
  pooled_nodup : w.pooled.Nodup
  handedOut_nodup : w.handedOut.Nodup
  length_le : w.pool.available.length ≤ w.pool.config.poolSize
  inUseCount_eq : w.pool.inUseCount = w.handedOut.length

instance (w : PoolWorld) : Decidable w.Owned :=
  decidable_of_iff (w.pooled.Nodup ∧ w.handedOut.Nodup ∧
      w.pool.available.length ≤ w.pool.config.poolSize ∧ w.pool.inUseCount = w.handedOut.length)
    ⟨fun ⟨h₁, h₂, h₃, h₄⟩ => ⟨h₁, h₂, h₃, h₄⟩, fun h => ⟨h.1, h.2, h.3, h.4⟩⟩

/-- A step that is careful. A context that is released has been handed out; or nobody has one, and
the pool does not end up with two entries for it. A context that is created on demand is not
null. -/
def Careful (w : PoolWorld) : PoolAction → Prop
  | .release (some context) _ =>
    w.contexts.length ≤ context ∨ context ∈ w.handedOut ∨
      w.handedOut = [] ∧ (w.pool.shutdown = true ∨
        ∀ e ∈ w.pool.available.drop (w.pool.available.length + 1 - w.pool.config.poolSize),
          e.context ≠ context)
  | .createOnDemand _ ok => w.creating = 0 ∨ ok = true
  | _ => True

structure Known (w : PoolWorld) : Prop where
  pooled_lt : ∀ c ∈ w.pooled, c < w.contexts.length
  handedOut_lt : ∀ c ∈ w.handedOut, c < w.contexts.length
  disjoint : ∀ c ∈ w.pooled, c ∉ w.handedOut

lemma Known.and_owned_of_eq (h : w.Known ∧ w.Owned) (hpooled : w'.pooled = w.pooled)
    (hcontexts : w.contexts.length ≤ w'.contexts.length) (hhanded : w'.handedOut = w.handedOut)
    (hsize : w'.pool.available.length ≤ w'.pool.config.poolSize)
    (hcount : w'.pool.inUseCount = w.pool.inUseCount) : w'.Known ∧ w'.Owned := by
  obtain ⟨hknown, howned⟩ := h
  refine ⟨⟨?_, ?_, ?_⟩, ⟨?_, ?_, hsize, ?_⟩⟩
  · intro c hc
    rw [hpooled] at hc
    exact Nat.lt_of_lt_of_le (hknown.pooled_lt c hc) hcontexts
  · intro c hc
    rw [hhanded] at hc
    exact Nat.lt_of_lt_of_le (hknown.handedOut_lt c hc) hcontexts
  · rw [hpooled, hhanded]
    exact hknown.disjoint
  · rw [hpooled]
    exact howned.pooled_nodup
  · rw [hhanded]
    exact howned.handedOut_nodup
  · rw [hcount, hhanded]
    exact howned.inUseCount_eq

lemma Known.and_owned_of_sublist (h : w.Known ∧ w.Owned) {available : List PoolEntry}
    (hsub : available.Sublist w.pool.available) (pool : CefSessionPool)
    (havailable : pool.available = available) (hcount : pool.inUseCount = w.pool.inUseCount)
    (hsize : available.length ≤ pool.config.poolSize) :
    { w with pool := pool }.Known ∧ { w with pool := pool }.Owned := by
  obtain ⟨hknown, howned⟩ := h
  have hpooled : (pooled { w with pool := pool }).Sublist w.pooled := by
    unfold pooled
    rw [havailable]
    exact hsub.map _
  refine ⟨⟨fun c hc => hknown.pooled_lt c (hpooled.subset hc), hknown.handedOut_lt,
    fun c hc => hknown.disjoint c (hpooled.subset hc)⟩,
    ⟨howned.pooled_nodup.sublist hpooled, howned.handedOut_nodup, ?_, ?_⟩⟩
  · rw [havailable]
    exact hsize
  · rw [hcount]
    exact howned.inUseCount_eq

/-! ### Creating contexts -/

lemma generateCachePath_snd (p : CefSessionPool) : p.generateCachePath.2.available = p.available ∧
    p.generateCachePath.2.inUseCount = p.inUseCount ∧
    p.generateCachePath.2.config = p.config := by
  unfold CefSessionPool.generateCachePath
  split <;> exact ⟨rfl, rfl, rfl⟩

lemma Known.createPooledContext (h : w.Known ∧ w.Owned)
    (hlt : w.pool.available.length < w.pool.config.poolSize) (answer : Creation) :
    (w.createPooledContext answer).Known ∧ (w.createPooledContext answer).Owned := by
  obtain ⟨havailable, hcount, hconfig⟩ := generateCachePath_snd w.pool
  unfold PoolWorld.createPooledContext
  generalize w.pool.generateCachePath = generated at havailable hcount hconfig ⊢
  obtain ⟨cachePath, pool⟩ := generated
  dsimp only at havailable hcount hconfig ⊢
  have hgenerated := Known.and_owned_of_sublist h (List.Sublist.refl _) _ havailable hcount
    (hconfig ▸ Nat.le_of_lt hlt)
  unfold createContext
  cases answer.ok with
  | false => exact hgenerated
  | true =>
    obtain ⟨hknown, howned⟩ := hgenerated
    have hpooled : pooled { w with
        pool := { pool with available :=
          pool.available ++ [⟨w.contexts.length, answer.now, answer.now, cachePath⟩] }
        contexts := w.contexts ++ [cachePath] } =
        pooled { w with pool := pool } ++ [w.contexts.length] := by
      simp [pooled]
    have hnew : ∀ c ∈ pooled { w with pool := pool }, c ≠ w.contexts.length := fun c hc =>
      Nat.ne_of_lt (hknown.pooled_lt c hc)
    refine ⟨⟨?_, ?_, ?_⟩, ⟨?_, howned.handedOut_nodup, ?_, howned.inUseCount_eq⟩⟩
    · intro c hc
      have hc : c ∈ pooled { w with pool := pool } ++ [w.contexts.length] := hpooled ▸ hc
      have hlength : (w.contexts ++ [cachePath]).length = w.contexts.length + 1 := by simp
      show c < (w.contexts ++ [cachePath]).length
      rw [hlength]
      rcases mem_append.mp hc with hc | hc
      · exact lt_succ_of_lt (hknown.pooled_lt c hc)
      · rw [mem_singleton.mp hc]
        exact lt_succ_self _
    · intro c hc
      have hlt := hknown.handedOut_lt c hc
      show c < (w.contexts ++ [cachePath]).length
      rw [length_append]
      exact Nat.lt_add_right _ hlt
    · intro c hc hhanded
      have hc : c ∈ pooled { w with pool := pool } ++ [w.contexts.length] := hpooled ▸ hc
      rcases mem_append.mp hc with hc | hc
      · exact hknown.disjoint c hc hhanded
      · exact Nat.ne_of_lt (hknown.handedOut_lt c hhanded) (mem_singleton.mp hc)
    · rw [if_pos rfl]
      rw [hpooled, nodup_append]
      refine ⟨howned.pooled_nodup, nodup_singleton _, fun c hc d hd => ?_⟩
      rw [mem_singleton.mp hd]
      exact hnew c hc
    · rw [if_pos rfl]
      rw [length_append, havailable, hconfig]
      exact hlt

lemma Known.prewarmLoop : ∀ (answers : List Creation) {w w' : PoolWorld}, w.Known ∧ w.Owned →
    prewarmLoop answers w = some w' → w'.Known ∧ w'.Owned
  | [], w, w', h, hw => by
    unfold PoolWorld.prewarmLoop at hw
    split at hw
    · cases hw
    · exact some.inj hw ▸ h
  | answer :: answers, w, w', h, hw => by
    unfold PoolWorld.prewarmLoop at hw
    split at hw
    · rename_i hlt
      exact Known.prewarmLoop answers (Known.createPooledContext h hlt answer) hw
    · exact some.inj hw ▸ h

lemma Known.prewarm (h : w.Known ∧ w.Owned) {answers : List Creation}
    (hw : w.prewarm answers = some w') : w'.Known ∧ w'.Owned := by
  unfold PoolWorld.prewarm at hw
  split at hw
  · exact some.inj hw ▸ h
  · exact Known.prewarmLoop answers h hw

/-! ### Handing out and taking back -/

lemma Known.handOut (h : w.Known ∧ w.Owned) {c : RequestContext} (pool : CefSessionPool)
    {contexts : List String} (hcount : pool.inUseCount = w.pool.inUseCount + 1)
    (hsize : pool.available.length ≤ pool.config.poolSize)
    (hcontexts : w.contexts.length ≤ contexts.length) (hc : c < contexts.length)
    (hnew : c ∉ w.handedOut) (hpooled : (c :: pool.available.map PoolEntry.context).Nodup)
    (hsub : ∀ d ∈ pool.available.map PoolEntry.context, d ∈ w.pooled) (creating : Nat) :
    (PoolWorld.mk pool contexts creating (c :: w.handedOut)).Known ∧
      (PoolWorld.mk pool contexts creating (c :: w.handedOut)).Owned := by
  obtain ⟨hknown, howned⟩ := h
  obtain ⟨hnot, hnodup⟩ := nodup_cons.mp hpooled
  refine ⟨⟨fun d hd => ?_, fun d hd => ?_, fun d hd hhanded => ?_⟩,
    ⟨hnodup, nodup_cons.mpr ⟨hnew, howned.handedOut_nodup⟩, hsize, ?_⟩⟩
  · exact Nat.lt_of_lt_of_le (hknown.pooled_lt d (hsub d hd)) hcontexts
  · rcases mem_cons.mp hd with rfl | hd
    · exact hc
    · exact Nat.lt_of_lt_of_le (hknown.handedOut_lt d hd) hcontexts
  · rcases mem_cons.mp hhanded with rfl | hhanded
    · exact hnot hd
    · exact hknown.disjoint d (hsub d hd) hhanded
  · rw [hcount, howned.inUseCount_eq]
    exact (length_cons ..).symm

lemma Known.acquire (h : w.Known ∧ w.Owned) (now : Int) :
    (w.acquire now).2.Known ∧ (w.acquire now).2.Owned := by
  unfold PoolWorld.acquire
  split
  · exact h
  · have hsub : ((w.pool.evictStaleEntries now).available).Sublist w.pool.available :=
      filter_sublist
    have hevicted := Known.and_owned_of_sublist h hsub (w.pool.evictStaleEntries now) rfl rfl
      (Nat.le_trans hsub.length_le h.2.length_le)
    generalize w.pool.evictStaleEntries now = pool at hevicted ⊢
    dsimp only
    split
    · exact Known.and_owned_of_eq hevicted rfl (Nat.le_refl _) rfl hevicted.2.length_le rfl
    · rename_i entry available heq
      have hpooled : pooled { w with pool := pool } =
          entry.context :: available.map PoolEntry.context := by
        unfold pooled
        rw [heq]
        rfl
      have hmem : entry.context ∈ pooled { w with pool := pool } := by
        rw [hpooled]
        exact mem_cons_self
      refine Known.handOut hevicted { pool with
        available := available, inUseCount := pool.inUseCount + 1 } rfl ?_ (Nat.le_refl _)
        (hevicted.1.pooled_lt _ hmem) (hevicted.1.disjoint _ hmem) ?_ (fun d hd => ?_) w.creating
      · have hlength := hevicted.2.length_le
        rw [heq, length_cons] at hlength
        exact le_of_succ_le hlength
      · rw [← hpooled]
        exact hevicted.2.pooled_nodup
      · rw [hpooled]
        exact mem_cons_of_mem _ hd

variable {cachePath : String} {context : RequestContext}

lemma Known.createOnDemand (h : w.Known ∧ w.Owned)
    (hw : w.createOnDemand cachePath true = some w') : w'.Known ∧ w'.Owned := by
  unfold PoolWorld.createOnDemand at hw
  split at hw
  · cases hw
  · cases hw
    refine Known.handOut h { w.pool with inUseCount := w.pool.inUseCount + 1 } rfl
      h.2.length_le ?_ ?_ ?_ ?_ (fun d hd => hd) _
    · simp
    · simp
    · exact fun hmem => Nat.lt_irrefl _ (h.1.handedOut_lt _ hmem)
    · exact nodup_cons.mpr
        ⟨fun hmem => Nat.lt_irrefl _ (h.1.pooled_lt _ hmem), h.2.pooled_nodup⟩

lemma not_owned_createOnDemand (h : w.Owned) (hcreating : w.creating ≠ 0) (cachePath : String) :
    ∃ w', w.createOnDemand cachePath false = some w' ∧ ¬ w'.Owned := by
  unfold PoolWorld.createOnDemand
  rw [if_neg hcreating]
  refine ⟨_, rfl, fun howned => ?_⟩
  have hcount : w.pool.inUseCount + 1 = w.handedOut.length := howned.inUseCount_eq
  rw [h.inUseCount_eq] at hcount
  omega

lemma trim_concat (poolSize : Nat) (entries : List PoolEntry) (e : PoolEntry) :
    trim poolSize (entries ++ [e]) =
      if poolSize = 0 then [] else entries.drop (entries.length + 1 - poolSize) ++ [e] := by
  rw [trim_eq_drop, length_append, length_singleton]
  split
  · rename_i hzero
    rw [hzero, Nat.sub_zero]
    exact drop_eq_nil_of_le (by simp)
  · rename_i hpos
    exact drop_append_of_le_length (by omega)

/-- **When an added entry is the only one** for its context among those that stay. -/
lemma nodup_trim_concat_iff {poolSize : Nat} {entries : List PoolEntry} {e : PoolEntry}
    (h : (entries.map PoolEntry.context).Nodup) :
    ((trim poolSize (entries ++ [e])).map PoolEntry.context).Nodup ↔
      ∀ x ∈ entries.drop (entries.length + 1 - poolSize), x.context ≠ e.context := by
  rw [trim_concat]
  split
  · rename_i hzero
    rw [hzero, Nat.sub_zero, drop_eq_nil_of_le (Nat.le_succ _)]
    simp
  · have hdrop : ((entries.drop (entries.length + 1 - poolSize)).map PoolEntry.context).Nodup :=
      h.sublist ((drop_sublist _ _).map _)
    rw [map_append, nodup_append]
    simp only [hdrop, map_cons, map_nil, nodup_singleton, true_and,
      mem_singleton, forall_eq, List.forall_mem_map]

/-- The pool behind `Release` of a context. -/
def released (w : PoolWorld) (context : RequestContext) (cachePath : String) (now : Int) :
    List PoolEntry :=
  if w.pool.shutdown then w.pool.available
  else trim w.pool.config.poolSize (w.pool.available ++ [⟨context, now, now, cachePath⟩])

lemma release_eq (hcontext : w.contexts[context]? = some cachePath) (now : Int) :
    w.release (some context) now = some { w with
      pool := { w.pool with
        inUseCount := w.pool.inUseCount - 1
        available := w.released context cachePath now }
      handedOut := w.handedOut.erase context } := by
  have hcount : (if 0 < w.pool.inUseCount then w.pool.inUseCount - 1 else w.pool.inUseCount) =
      w.pool.inUseCount - 1 := by
    split <;> omega
  simp only [release, hcontext, hcount, released]
  cases w.pool.shutdown <;> rfl

lemma mem_released {now : Int} {e : PoolEntry}
    (he : e ∈ w.released context cachePath now) : e ∈ w.pool.available ∨ e.context = context := by
  unfold released at he
  split at he
  · exact .inl he
  · rw [trim_eq_drop] at he
    rcases mem_append.mp (mem_of_mem_drop he) with he | he
    · exact .inl he
    · exact .inr (mem_singleton.mp he ▸ rfl)

/-- **Taking back.** `Release` of an existing context keeps ownership if and only if the step is
careful. -/
lemma Known.release_iff (h : w.Known ∧ w.Owned)
    (hlt : context < w.contexts.length) (now : Int) : ∃ w', w.release (some context) now = some w' ∧
      (w.Careful (.release (some context) now) → w'.Known) ∧
      (w'.Owned ↔ w.Careful (.release (some context) now)) := by
  obtain ⟨hknown, howned⟩ := h
  have hget := List.getElem?_eq_getElem hlt
  refine ⟨_, release_eq hget now, fun _ => ?_, ?_⟩
  · -- the released context is with its caller no more
    refine ⟨fun c hc => ?_, fun c hc => hknown.handedOut_lt c (mem_of_mem_erase hc),
      fun c hc hhanded => ?_⟩
    · obtain ⟨e, he, rfl⟩ := mem_map.mp hc
      rcases mem_released he with he | he
      · exact hknown.pooled_lt _ (mem_map_of_mem he)
      · rw [he]
        exact hlt
    · obtain ⟨e, he, rfl⟩ := mem_map.mp hc
      rcases mem_released he with he | he
      · exact hknown.disjoint _ (mem_map_of_mem he) (mem_of_mem_erase hhanded)
      · rw [he] at hhanded
        exact howned.handedOut_nodup.not_mem_erase hhanded
  · have hnodup : ((w.released context w.contexts[context] now).map PoolEntry.context).Nodup ↔
        w.pool.shutdown = true ∨
          ∀ e ∈ w.pool.available.drop (w.pool.available.length + 1 - w.pool.config.poolSize),
            e.context ≠ context := by
      unfold released
      cases hshutdown : w.pool.shutdown with
      | true => exact iff_of_true howned.pooled_nodup (.inl rfl)
      | false => simpa using nodup_trim_concat_iff howned.pooled_nodup
    have hlength : (w.released context w.contexts[context] now).length ≤ w.pool.config.poolSize := by
      unfold released
      split
      · exact howned.length_le
      · exact length_trim_le _ _
    have hshape : ∀ {v : PoolWorld}, v.Owned ↔ v.pooled.Nodup ∧ v.handedOut.Nodup ∧
        v.pool.available.length ≤ v.pool.config.poolSize ∧
        v.pool.inUseCount = v.handedOut.length := fun {v} =>
      ⟨fun h => ⟨h.1, h.2, h.3, h.4⟩, fun ⟨h₁, h₂, h₃, h₄⟩ => ⟨h₁, h₂, h₃, h₄⟩⟩
    rw [hshape]
    simp only [pooled, hnodup, hlength, true_and, howned.handedOut_nodup.erase context, Careful,
      Nat.not_le.mpr hlt, false_or, howned.inUseCount_eq]
    by_cases hmem : context ∈ w.handedOut
    · have hentries : ∀ e ∈ w.pool.available.drop
          (w.pool.available.length + 1 - w.pool.config.poolSize), e.context ≠ context :=
        fun e he heq => hknown.disjoint context
          (heq ▸ mem_map_of_mem (mem_of_mem_drop he)) hmem
      simp only [hmem, true_or, iff_true]
      exact ⟨.inr hentries, (length_erase_of_mem hmem).symm⟩
    · have hcount : w.handedOut.length - 1 = w.handedOut.length ↔ w.handedOut = [] := by
        rw [← length_eq_zero_iff]
        omega
      simp only [hmem, false_or, erase_of_not_mem hmem, hcount]
      exact and_comm

/-! ### Runs -/

lemma Known.step {a : PoolAction} (h : w.Known ∧ w.Owned) (ha : w.Careful a)
    (hw : w.step a = some w') : w'.Known ∧ w'.Owned := by
  cases a with
  | acquire now => exact some.inj hw ▸ Known.acquire h now
  | createOnDemand cachePath ok =>
    rcases ha with hzero | rfl
    · simp [PoolWorld.step, PoolWorld.createOnDemand, hzero] at hw
    · exact Known.createOnDemand h hw
  | release context now =>
    cases context with
    | none => exact some.inj hw ▸ h
    | some context =>
      by_cases hlt : context < w.contexts.length
      · obtain ⟨v, hv, hknown, howned⟩ := Known.release_iff h hlt now
        obtain rfl : v = w' := some.inj (hv.symm.trans hw)
        exact ⟨hknown ha, howned.mpr ha⟩
      · have hnone := List.getElem?_eq_none (Nat.not_lt.mp hlt)
        simp [PoolWorld.step, PoolWorld.release, hnone] at hw
  | prewarm answers => exact Known.prewarm h hw
  | setConfig config =>
    cases hw
    have hsub : (trim config.poolSize w.pool.available).Sublist w.pool.available := by
      rw [trim_eq_drop]
      exact drop_sublist _ _
    exact Known.and_owned_of_sublist h hsub _ rfl rfl (length_trim_le _ _)
  | shutDown =>
    cases hw
    unfold PoolWorld.shutDown
    split
    · exact h
    · exact Known.and_owned_of_sublist h (nil_sublist _) _ rfl rfl (zero_le _)
  | createElsewhere cachePath =>
    cases hw
    refine Known.and_owned_of_eq h rfl ?_ rfl h.2.length_le rfl
    simp [createContext]

lemma exists_not_owned {a : PoolAction} (h : w.Known ∧ w.Owned) (ha : ¬ w.Careful a) :
    ∃ w', w.step a = some w' ∧ ¬ w'.Owned := by
  unfold Careful at ha
  split at ha
  · rename_i context now
    have hlt : context < w.contexts.length := Nat.not_le.mp fun hle => ha (.inl hle)
    obtain ⟨w', hw', -, howned⟩ := Known.release_iff h hlt now
    exact ⟨w', hw', fun h => ha (howned.mp h)⟩
  · rename_i cachePath ok
    obtain ⟨hcreating, hok⟩ := not_or.mp ha
    obtain rfl : ok = false := by simpa using hok
    exact not_owned_createOnDemand h.2 hcreating cachePath
  · exact absurd trivial ha

lemma Known.construct {config : SessionPoolConfig} {contexts : List String}
    {answers : List Creation} (hw : construct config contexts answers = some w) :
    w.Known ∧ w.Owned := by
  refine Known.prewarm ⟨⟨?_, ?_, ?_⟩, ⟨?_, ?_, ?_, ?_⟩⟩ hw <;>
    simp [pooled, CefSessionPool.new]

/-- **Ownership of pooled contexts**: in a run from a new pool every state is owned if and only if
every step is careful.

**Proof sketch.** A context that is created is nowhere else; one that is handed out leaves the pool,
and comes back to it. The count of the contexts in use goes wrong with a null, and with a context
that has not been handed out. -/
theorem owned_iff_careful (config : SessionPoolConfig) (contexts : List String)
    (answers : List Creation) (w : PoolWorld) (hw : construct config contexts answers = some w)
    (actions : List PoolAction) :
    Always step Owned w actions ↔ Along step Careful w actions := by
  obtain ⟨hknown, howned⟩ := Known.construct hw
  exact Along.iff_always (I := Known)
    (fun w a w' hknown howned ha hw => Known.step ⟨hknown, howned⟩ ha hw)
    (fun w a hknown howned ha => exists_not_owned ⟨hknown, howned⟩ ha) actions w hknown howned

/-- A pool of one context, which is handed out and taken back. -/
theorem owned_iff_careful_handOut :
    Always step Owned ⟨⟨{ poolSize := 1 }, false, 1, [⟨0, 0, 0, ""⟩], 0⟩, [""], 0, []⟩
        [.acquire 0, .release (some 0) 0] ↔
      Along step Careful ⟨⟨{ poolSize := 1 }, false, 1, [⟨0, 0, 0, ""⟩], 0⟩, [""], 0, []⟩
        [.acquire 0, .release (some 0) 0] :=
  owned_iff_careful { poolSize := 1 } [] [⟨true, 0⟩] _ rfl _

/-- A pool of no contexts fails to create one on demand: its caller gets null, which is counted as a
context in use, and `Release` of null does not change the count. -/
theorem not_owned_of_failed_creation : ¬ ∀ (config : SessionPoolConfig) (contexts : List String)
    (answers : List Creation) (w : PoolWorld), construct config contexts answers = some w →
      ∀ actions : List PoolAction, Always step Owned w actions := by
  intro h
  have howned := h { poolSize := 0 } [] [] _ rfl
    [.acquire 0, .createOnDemand "" false, .release none 0] 3 _ rfl
  exact absurd howned (by decide)

end CefCore.Browser.PoolWorld
