import CefCore.Foundations.Run

/-!
# The session pool

`CefSessionPool` of `libcef/browser/session_pool.cc`: request contexts that have been created ahead
of their use. `Acquire` hands one out, `Release` takes one back, `Prewarm` fills the pool.

## Main definitions

* `PoolWorld.step`: a call, or a part of one.

## Implementation notes

* `Acquire` on an empty pool has two steps: it finds the pool empty, and later counts and hands out
  the context it has created. Other calls may come between them. `Prewarm` is posted by `Acquire`
  and may run at any time.
* `CreateContext` returns null or a context that has not been there before. A loop of `Prewarm`
  that waits for a creation to succeed does not come back.
* Times are in microseconds. `ResetContextState` does not change the pool.
-/

namespace CefCore.Browser

open List

abbrev RequestContext := Nat

/-- `CefSessionPool::Config`. -/
structure SessionPoolConfig where
  poolSize : Nat := 2
  maxIdleTime : Int := 300000000
  baseCachePath : String := ""

structure PoolEntry where
  context : RequestContext
  createdAt : Int
  lastUsedAt : Int
  cachePath : String

structure CefSessionPool where
  config : SessionPoolConfig
  shutdown : Bool
  nextContextId : Nat
  available : List PoolEntry
  inUseCount : Nat

def CefSessionPool.new (config : SessionPoolConfig) : CefSessionPool := ⟨config, false, 1, [], 0⟩

namespace CefSessionPool

def getAvailableCount (p : CefSessionPool) : Nat := p.available.length

def getTotalCount (p : CefSessionPool) : Nat := p.available.length + p.inUseCount

def generateCachePath (p : CefSessionPool) : String × CefSessionPool :=
  if p.config.baseCachePath = "" then ("", p)
  else
    (p.config.baseCachePath ++ "/pool_" ++ toString p.nextContextId,
      { p with nextContextId := p.nextContextId + 1 })

def evictStaleEntries (p : CefSessionPool) (now : Int) : CefSessionPool :=
  { p with available := p.available.filter fun e => !(p.config.maxIdleTime < now - e.lastUsedAt) }

end CefSessionPool

/-- The loop that removes the oldest entries of a pool that has more than its size. -/
def trim (poolSize : Nat) : List PoolEntry → List PoolEntry
  | [] => []
  | e :: entries => if poolSize < entries.length + 1 then trim poolSize entries else e :: entries

lemma trim_eq_drop (poolSize : Nat) :
    ∀ entries : List PoolEntry, trim poolSize entries = entries.drop (entries.length - poolSize)
  | [] => by simp [trim]
  | e :: entries => by
    unfold trim
    split
    · rename_i hlt
      rw [trim_eq_drop poolSize entries, length_cons,
        show entries.length + 1 - poolSize = entries.length - poolSize + 1 by omega,
        drop_succ_cons]
    · rename_i hle
      rw [length_cons, Nat.sub_eq_zero_of_le (Nat.not_lt.mp hle), drop_zero]

lemma length_trim_le (poolSize : Nat) (entries : List PoolEntry) :
    (trim poolSize entries).length ≤ poolSize := by
  rw [trim_eq_drop, length_drop]
  omega

/-- The pool, with the cache paths of all contexts, the number of calls of `Acquire` that create a
context on demand, and the contexts that have been handed out and not been released. -/
structure PoolWorld where
  pool : CefSessionPool
  contexts : List String
  creating : Nat
  handedOut : List RequestContext

/-- What the system answers to `CreateContext`, and the time. -/
structure Creation where
  ok : Bool
  now : Int

/-- What `Acquire` finds in its first section. -/
inductive Acquired where
  | refused
  | pooled (context : RequestContext)
  | onDemand

namespace PoolWorld

def createContext (w : PoolWorld) (cachePath : String) (ok : Bool) :
    Option RequestContext × PoolWorld :=
  if ok then (some w.contexts.length, { w with contexts := w.contexts ++ [cachePath] })
  else (none, w)

def createPooledContext (w : PoolWorld) (answer : Creation) : PoolWorld :=
  let (cachePath, pool) := w.pool.generateCachePath
  match { w with pool := pool }.createContext cachePath answer.ok with
  | (none, w) => w
  | (some context, w) =>
    { w with pool := { w.pool with
        available := w.pool.available ++ [⟨context, answer.now, answer.now, cachePath⟩] } }

/-- The loop of `Prewarm`. -/
def prewarmLoop : List Creation → PoolWorld → Option PoolWorld
  | [], w => if w.pool.available.length < w.pool.config.poolSize then none else some w
  | answer :: answers, w =>
    if w.pool.available.length < w.pool.config.poolSize then
      prewarmLoop answers (w.createPooledContext answer)
    else some w

section

variable (w : PoolWorld)

def prewarm (answers : List Creation) : Option PoolWorld :=
  if w.pool.shutdown then some w else prewarmLoop answers w

/-- `Acquire`, up to the end of its first section, or to its end if it finds a context. -/
def acquire (now : Int) : Acquired × PoolWorld :=
  if w.pool.shutdown then (.refused, w)
  else
    let pool := w.pool.evictStaleEntries now
    match pool.available with
    | [] => (.onDemand, { w with pool := pool, creating := w.creating + 1 })
    | entry :: available =>
      (.pooled entry.context, { w with
        pool := { pool with available := available, inUseCount := pool.inUseCount + 1 }
        handedOut := entry.context :: w.handedOut })

/-- The rest of `Acquire` on an empty pool, with the cache path of its settings. -/
def createOnDemand (cachePath : String) (ok : Bool) : Option PoolWorld :=
  if w.creating = 0 then none
  else
    let (context, w) := { w with creating := w.creating - 1 }.createContext cachePath ok
    let w := { w with pool := { w.pool with inUseCount := w.pool.inUseCount + 1 } }
    match context with
    -- the caller gets null
    | none => some w
    | some context => some { w with handedOut := context :: w.handedOut }

def release (context : Option RequestContext) (now : Int) : Option PoolWorld :=
  match context with
  | none => some w
  | some context =>
    match w.contexts[context]? with
    | none => none
    | some cachePath =>
      let w := { w with
        pool := { w.pool with
          inUseCount := if 0 < w.pool.inUseCount then w.pool.inUseCount - 1 else w.pool.inUseCount }
        handedOut := w.handedOut.erase context }
      if w.pool.shutdown then some w
      else some { w with pool := { w.pool with
        available := trim w.pool.config.poolSize
          (w.pool.available ++ [⟨context, now, now, cachePath⟩]) } }

def shutDown : PoolWorld :=
  if w.pool.shutdown then w
  else { w with pool := { w.pool with shutdown := true, available := [] } }

def setConfig (config : SessionPoolConfig) : PoolWorld :=
  { w with pool := { w.pool with
      config := config
      available := trim config.poolSize w.pool.available } }

end

def construct (config : SessionPoolConfig) (contexts : List String) (answers : List Creation) :
    Option PoolWorld :=
  PoolWorld.prewarm ⟨.new config, contexts, 0, []⟩ answers

end PoolWorld

/-- The steps of a run. The program may also create contexts of its own. -/
inductive PoolAction where
  | acquire (now : Int)
  | createOnDemand (cachePath : String) (ok : Bool)
  | release (context : Option RequestContext) (now : Int)
  | prewarm (answers : List Creation)
  | setConfig (config : SessionPoolConfig)
  | shutDown
  | createElsewhere (cachePath : String)

namespace PoolWorld

def step (w : PoolWorld) : PoolAction → Option PoolWorld
  | .acquire now => some (w.acquire now).2
  | .createOnDemand cachePath ok => w.createOnDemand cachePath ok
  | .release context now => w.release context now
  | .prewarm answers => w.prewarm answers
  | .setConfig config => some (w.setConfig config)
  | .shutDown => some w.shutDown
  | .createElsewhere cachePath => some (w.createContext cachePath true).2

end PoolWorld

end CefCore.Browser
