import CefCore.Foundations.AsciiText
import CefCore.MessageRouter.ProcessMessage

/-!
# The security policy of a browser

`CefBrowserSecurityPolicyImpl` of `libcef/browser/browser_security_policy_impl.cc`. The settings hold
a list of domains in one string. When they are set, the list is split into a compiled policy, against
which the hosts of requests are checked.

## Main results

* `isDomainAllowed_shouldBlockRequest`: which hosts are blocked.

## Implementation notes

* `GURL` is a parameter: a text is parsed into one, and it has a host.
* The callback of `SetSettings` and the settings that the policy does not look at are left out.
-/

namespace CefCore.Browser.SecurityPolicy

open AsciiText CefCore.MessageRouter List

/-- The bytes of a `std::string`. -/
abbrev Bytes := List UInt8

def dot : UInt8 := 46

def comma : UInt8 := 44

/-- `CefBrowserSecuritySettings`. -/
structure BrowserSecuritySettings where
  allowedDomains : CefString := []
  confirmActions : CefString := []

structure CompiledPolicy where
  allowedDomains : List Bytes := []
  confirmActionCategories : List Bytes := []
  hasAllowedDomains : Bool := false
  hasConfirmActions : Bool := false

/-- `CefBrowserSecurityPolicyImpl`. -/
structure BrowserSecurityPolicyImpl where
  settings : BrowserSecuritySettings := {}
  compiledPolicy : CompiledPolicy := {}

section Policy

variable (base : UnicodeConversions)

/-- The `std::string` of a `CefString`, which is UTF-8. -/
def toStdString (s : CefString) : Bytes := (s.toString base).toUTF8.data.toList

/-- The part of `RecompilePolicy` for the domains. -/
def compileAllowedDomains (text : Bytes) (policy : CompiledPolicy) : CompiledPolicy :=
  if text.isEmpty then policy
  else
    { policy with
      allowedDomains := splitString text comma
      hasAllowedDomains := !(splitString text comma).isEmpty }

/-- The part of `RecompilePolicy` for the actions. -/
def compileConfirmActions (text : Bytes) (policy : CompiledPolicy) : CompiledPolicy :=
  if text.isEmpty then policy
  else
    { policy with
      confirmActionCategories := splitString text comma
      hasConfirmActions := !(splitString text comma).isEmpty }

def recompilePolicy (p : BrowserSecurityPolicyImpl) : BrowserSecurityPolicyImpl :=
  { p with
    compiledPolicy := compileConfirmActions (toStdString base p.settings.confirmActions)
      (compileAllowedDomains (toStdString base p.settings.allowedDomains) {}) }

def setSettings (p : BrowserSecurityPolicyImpl) (settings : BrowserSecuritySettings) :
    BrowserSecurityPolicyImpl :=
  recompilePolicy base { p with settings := settings }

def getAllowedDomains (p : BrowserSecurityPolicyImpl) : CefString := p.settings.allowedDomains

/-- The loop of `IsDomainAllowed`. -/
def isDomainAllowedLoop (domain : Bytes) : List Bytes → Bool
  | [] => false
  | allowed :: rest =>
    if allowed.isEmpty then isDomainAllowedLoop domain rest
    else if allowed.head? = some dot then
      if equalsCaseInsensitive domain (allowed.drop 1) then true
      else if domain.length > allowed.length && endsWith domain allowed then true
      else isDomainAllowedLoop domain rest
    else if equalsCaseInsensitive domain allowed then true
    else isDomainAllowedLoop domain rest

def isDomainAllowed (p : BrowserSecurityPolicyImpl) (domain : Bytes) : Bool :=
  if !p.compiledPolicy.hasAllowedDomains then true
  else isDomainAllowedLoop domain p.compiledPolicy.allowedDomains

/-- The loop of `ShouldBlockRequest`. -/
def shouldBlockLoop (host : Bytes) : List Bytes → Bool
  | [] => true
  | allowed :: rest =>
    if allowed.isEmpty then shouldBlockLoop host rest
    else if allowed.head? = some dot then
      if equalsCaseInsensitive host (allowed.drop 1) then false
      else if host.length > allowed.length && endsWith host allowed then false
      else shouldBlockLoop host rest
    else if equalsCaseInsensitive host allowed then false
    else shouldBlockLoop host rest

variable {Gurl : Type} (hostOf : Gurl → Bytes) (parse : String → Gurl)

/-- `ShouldBlockRequest` of a `GURL`. -/
def shouldBlockRequest (p : BrowserSecurityPolicyImpl) (url : Gurl) : Bool :=
  if !p.compiledPolicy.hasAllowedDomains then false
  else shouldBlockLoop (hostOf url) p.compiledPolicy.allowedDomains

/-- `ShouldBlockRequest` of a `CefString`. -/
def shouldBlockRequestUrl (p : BrowserSecurityPolicyImpl) (url : CefString) : Bool :=
  shouldBlockRequest hostOf p (parse (url.toString base))

end Policy

/-! ### What an entry allows -/

/-- An entry without a full stop in front allows one host. An entry with one allows the host behind
it and all hosts that have further labels in front. Case does not matter. -/
inductive Allows (host : Bytes) : Bytes → Prop
  | exact {e : Bytes} (hdot : e.head? ≠ some dot) (h : SameLetters host e) : Allows host e
  | bare {d : Bytes} (h : SameLetters host d) : Allows host (dot :: d)
  | subdomain {d p d' : Bytes} (hne : p ≠ []) (hhost : host = p ++ dot :: d')
    (h : SameLetters d' d) : Allows host (dot :: d)

/-- The host ends with the letters of an entry with a full stop in front, and something that does not
end with a full stop is in front of them. -/
def EndsInside (host e : Bytes) : Prop :=
  ∃ d p d', e = dot :: d ∧ host = p ++ d' ∧ SameLetters d' d ∧ p ≠ [] ∧ p.getLast? ≠ some dot

lemma toLower_eq_dot_iff {b : UInt8} : toLower b = dot ↔ b = dot := by
  unfold toLower dot
  split
  · rename_i h
    simp only [Bool.and_eq_true, decide_eq_true_eq, UInt8.le_iff_toNat_le] at h
    simp only [← UInt8.toNat_inj, UInt8.toNat_add, UInt8.reduceToNat] at h ⊢
    omega
  · exact Iff.rfl

lemma sameLetters_dot_cons_iff {s d : Bytes} :
    SameLetters s (dot :: d) ↔ ∃ d', s = dot :: d' ∧ SameLetters d' d := by
  unfold SameLetters
  have hdot : toLower dot = dot := toLower_eq_dot_iff.mpr rfl
  constructor
  · intro h
    obtain ⟨b, d', rfl, hb, hd'⟩ := map_eq_cons_iff.mp h
    rw [hdot, toLower_eq_dot_iff] at hb
    exact ⟨d', by rw [hb], hd'⟩
  · rintro ⟨d', rfl, h⟩
    rw [map_cons, map_cons, h]

lemma allows_dot_cons_iff {host d : Bytes} : Allows host (dot :: d) ↔
    SameLetters host d ∨ host.length > (dot :: d).length ∧ endsWith host (dot :: d) = true := by
  rw [endsWith_iff]
  constructor
  · intro h
    cases h with
    | exact hdot => exact absurd rfl hdot
    | bare h => exact .inl h
    | @subdomain d p d' hne hhost h =>
      have hlength := h.length_eq
      have hp := length_pos_iff.mpr hne
      refine .inr ⟨?_, p, dot :: d', hhost, sameLetters_dot_cons_iff.mpr ⟨d', rfl, h⟩⟩
      rw [hhost, length_append, length_cons, length_cons]
      omega
  · rintro (h | ⟨hlength, p, back, rfl, hback⟩)
    · exact .bare h
    · obtain ⟨d', rfl, h⟩ := sameLetters_dot_cons_iff.mp hback
      have hback := hback.length_eq
      refine .subdomain ?_ rfl h
      rintro rfl
      rw [nil_append] at hlength
      omega

lemma not_allows_of_endsInside {host e : Bytes} (h : EndsInside host e) : ¬ Allows host e := by
  obtain ⟨d, p, d', rfl, rfl, hd', hne, hlast⟩ := h
  have hlength := hd'.length_eq
  intro hallows
  cases hallows with
  | exact hdot => exact hdot rfl
  | bare h =>
    have hhost := h.length_eq
    rw [length_append] at hhost
    exact hne (length_eq_zero_iff.mp (by omega))
  | @subdomain _ q d'' _ hhost h =>
    -- both splits are at the same place, so that the front ends with the full stop
    have hback := h.length_eq
    rw [← singleton_append, ← append_assoc] at hhost
    have hfront := append_inj_left' hhost (hlength.trans hback.symm)
    rw [hfront, getLast?_concat] at hlast
    exact hlast rfl

/-! ### The loops -/

lemma isDomainAllowedLoop_cons (domain : Bytes) {allowed : Bytes} (hne : allowed ≠ [])
    (rest : List Bytes) : isDomainAllowedLoop domain (allowed :: rest) = true ↔
      Allows domain allowed ∨ isDomainAllowedLoop domain rest = true := by
  cases allowed with
  | nil => exact absurd rfl hne
  | cons b d =>
    simp only [isDomainAllowedLoop, isEmpty_cons, Bool.false_eq_true, if_false,
      head?_cons, Option.some.injEq, drop_one, tail_cons]
    by_cases hb : b = dot
    · rw [if_pos hb, hb, allows_dot_cons_iff, ← equalsCaseInsensitive_iff]
      cases equalsCaseInsensitive domain d <;> simp
    · have hexact : Allows domain (b :: d) ↔ SameLetters domain (b :: d) := by
        refine ⟨fun h => ?_, .exact (by simpa using hb)⟩
        cases h with
        | exact _ h => exact h
        | bare => exact absurd rfl hb
        | subdomain => exact absurd rfl hb
      rw [if_neg hb, hexact, ← equalsCaseInsensitive_iff]
      cases equalsCaseInsensitive domain (b :: d) <;> simp

lemma isDomainAllowedLoop_iff (domain : Bytes) : ∀ {domains : List Bytes}, [] ∉ domains →
    (isDomainAllowedLoop domain domains = true ↔ ∃ e ∈ domains, Allows domain e)
  | [], _ => by simp [isDomainAllowedLoop]
  | allowed :: rest, h => by
    rw [mem_cons, not_or] at h
    rw [isDomainAllowedLoop_cons domain (Ne.symm h.1), isDomainAllowedLoop_iff domain h.2,
      exists_mem_cons_iff]

lemma shouldBlockLoop_eq (host : Bytes) : ∀ domains : List Bytes,
    shouldBlockLoop host domains = !isDomainAllowedLoop host domains
  | [] => rfl
  | allowed :: rest => by
    have ih := shouldBlockLoop_eq host rest
    unfold shouldBlockLoop isDomainAllowedLoop
    rw [ih]
    split_ifs <;> rfl

/-! ### The checks -/

section Policy

variable {base : UnicodeConversions}

def Compiled (base : UnicodeConversions) (p : BrowserSecurityPolicyImpl) : Prop :=
  p.compiledPolicy.allowedDomains = splitString (toStdString base (getAllowedDomains p)) comma ∧
    p.compiledPolicy.hasAllowedDomains = !p.compiledPolicy.allowedDomains.isEmpty

lemma compiled_init : Compiled base {} := by
  have htext : toStdString base [] = [] := rfl
  refine ⟨?_, rfl⟩
  rw [show getAllowedDomains {} = [] from rfl, htext]
  rfl

lemma compiled_setSettings (p : BrowserSecurityPolicyImpl) (settings : BrowserSecuritySettings) :
    Compiled base (setSettings base p settings) := by
  have hactions : ∀ text policy,
      (compileConfirmActions text policy).allowedDomains = policy.allowedDomains ∧
        (compileConfirmActions text policy).hasAllowedDomains = policy.hasAllowedDomains := by
    intro text policy
    unfold compileConfirmActions
    split <;> exact ⟨rfl, rfl⟩
  unfold Compiled setSettings recompilePolicy getAllowedDomains
  rw [(hactions _ _).1, (hactions _ _).2]
  unfold compileAllowedDomains
  split
  · rename_i htext
    rw [isEmpty_iff.mp htext]
    exact ⟨rfl, rfl⟩
  · exact ⟨rfl, rfl⟩

lemma compiled_foldl (history : List BrowserSecuritySettings) :
    Compiled base (history.foldl (setSettings base) {}) := by
  rcases eq_nil_or_concat history with rfl | ⟨history, settings, rfl⟩
  · exact compiled_init
  · rw [concat_eq_append, foldl_append]
    exact compiled_setSettings _ settings

lemma shouldBlockRequest_eq {Gurl : Type} (hostOf : Gurl → Bytes) (p : BrowserSecurityPolicyImpl)
    (url : Gurl) : shouldBlockRequest hostOf p url = !isDomainAllowed p (hostOf url) := by
  unfold shouldBlockRequest isDomainAllowed
  rw [shouldBlockLoop_eq]
  split <;> rfl

lemma isDomainAllowed_iff {p : BrowserSecurityPolicyImpl} (h : Compiled base p) (domain : Bytes) :
    isDomainAllowed p domain = true ↔
      (¬ ∃ e, IsEntry (toStdString base (getAllowedDomains p)) comma e) ∨
        ∃ e, IsEntry (toStdString base (getAllowedDomains p)) comma e ∧ Allows domain e := by
  have hentries : ∀ e, e ∈ p.compiledPolicy.allowedDomains ↔
      IsEntry (toStdString base (getAllowedDomains p)) comma e := by
    intro e
    rw [h.1, mem_splitString_iff]
  have hnil : [] ∉ p.compiledPolicy.allowedDomains := by
    intro hmem
    obtain ⟨_, _, _, _, _, _, _, hne, _⟩ := (hentries []).mp hmem
    exact hne rfl
  simp only [← hentries]
  unfold isDomainAllowed
  rw [h.2, Bool.not_not]
  cases hdomains : p.compiledPolicy.allowedDomains with
  | nil => simp
  | cons e rest =>
    rw [hdomains] at hnil
    have hsome : ∃ e', e' ∈ e :: rest := ⟨e, mem_cons_self⟩
    rw [isEmpty_cons, if_neg Bool.false_ne_true, isDomainAllowedLoop_iff domain hnil]
    simp only [not_not.mpr hsome, false_or]

/-- **The two checks.** After any calls of `SetSettings`, a request is blocked if and only if its host
is not allowed, and a host is allowed if and only if the setting has no entries or one of them allows
it. A host that no entry allows, but for those inside whose labels it ends, is not allowed. -/
theorem isDomainAllowed_shouldBlockRequest (base : UnicodeConversions) {Gurl : Type}
    (hostOf : Gurl → Bytes) (parse : String → Gurl) (history : List BrowserSecuritySettings) :
    let p := history.foldl (setSettings base) {}
    let text := toStdString base (getAllowedDomains p)
    (∀ url, shouldBlockRequest hostOf p url = !isDomainAllowed p (hostOf url)) ∧
      (∀ url, shouldBlockRequestUrl base hostOf parse p url =
        !isDomainAllowed p (hostOf (parse (url.toString base)))) ∧
      (∀ host, isDomainAllowed p host = true ↔
        (¬ ∃ e, IsEntry text comma e) ∨ ∃ e, IsEntry text comma e ∧ Allows host e) ∧
      ∀ host, (∃ e, IsEntry text comma e) →
        (∀ e, IsEntry text comma e → EndsInside host e ∨ ¬ Allows host e) →
        isDomainAllowed p host = false := by
  intro p text
  have hcompiled : Compiled base p := compiled_foldl history
  have hallowed := isDomainAllowed_iff hcompiled
  refine ⟨shouldBlockRequest_eq hostOf p, fun url => shouldBlockRequest_eq hostOf p _, hallowed, ?_⟩
  intro host hsome hinside
  refine Bool.eq_false_iff.mpr fun h => ?_
  rcases (hallowed host).mp h with hnone | ⟨e, hentry, hallows⟩
  · exact hnone hsome
  · rcases hinside e hentry with hends | hnot
    · exact not_allows_of_endsInside hends hallows
    · exact hnot hallows

end Policy

end CefCore.Browser.SecurityPolicy
