/-
  File:      ModalRs/Config.lean
  Subject:   The profile of a client: what the environment and the config file make of it.

  Without a name, the profile is the first active one that the iteration over the
  config map comes to. What the order of the iteration is, nothing says.

  * `getProfile`: the choice, and the settings of the choice.
  * `resolveProfile_setting`: each setting, with its overrides.
  * `OrderIrrelevant`: every order of the config map gives the same profile.
  * `orderIrrelevant_iff`: when that is so.
-/
import ModalRs.Rust.HashMap

namespace ModalRs

open ModalRs.Rust

/-! ## 1. Profiles -/

/-- Profile holds a fully-resolved configuration ready for use by the client. -/
structure Profile where
  serverUrl : String
  tokenId : String
  tokenSecret : String
  environment : String
  imageBuilderVersion : String
  logLevel : String
  deriving DecidableEq

/-- rawProfile mirrors the TOML structure on disk. -/
structure RawProfile where
  serverUrl : String := ""
  tokenId : String := ""
  tokenSecret : String := ""
  environment : String := ""
  imageBuilderVersion : String := ""
  loglevel : String := ""
  active : Bool := false
  deriving DecidableEq

abbrev Config : Type := HashMap String RawProfile

/-- The environment variables that are set, to texts. -/
abbrev Environment : Type := String → Option String

/-- `env::var(name).unwrap_or_default()`. -/
def Environment.var (env : Environment) (name : String) : String := (env name).getD ""

def firstNonEmpty : List String → String
  | [] => ""
  | v :: values => if v ≠ "" then v else firstNonEmpty values

/-- The loop over the config map: the name of the first active profile. -/
def firstActive : List (HashMap.Entry String RawProfile) → String
  | [] => ""
  | e :: rest => if e.2.active then e.1 else firstActive rest

/-- The settings of a profile, each from its variable if that is set. -/
def resolveProfile (env : Environment) (raw : RawProfile) : Profile where
  serverUrl := firstNonEmpty [env.var "MODAL_SERVER_URL", raw.serverUrl, "https://api.modal.com:443"]
  tokenId := firstNonEmpty [env.var "MODAL_TOKEN_ID", raw.tokenId]
  tokenSecret := firstNonEmpty [env.var "MODAL_TOKEN_SECRET", raw.tokenSecret]
  environment := firstNonEmpty [env.var "MODAL_ENVIRONMENT", raw.environment]
  imageBuilderVersion :=
    firstNonEmpty [env.var "MODAL_IMAGE_BUILDER_VERSION", raw.imageBuilderVersion]
  logLevel := firstNonEmpty [env.var "MODAL_LOGLEVEL", raw.loglevel]

/-- `get_profile`; `order` is the one in which the config map is iterated. -/
def getProfile (env : Environment) (order : List (HashMap.Entry String RawProfile)) (name : String)
    (cfg : Config) : Profile :=
  let profileName := if name = "" then firstActive order else name
  resolveProfile env (if profileName ≠ "" then (cfg.lookup profileName).getD {} else {})

/-! ## 2. Settings -/

/-- The settings of a profile. -/
inductive Setting where
  | serverUrl | tokenId | tokenSecret | environment | imageBuilderVersion | logLevel
  deriving DecidableEq

/-- Its environment variable. -/
def Setting.variable : Setting → String
  | .serverUrl => "MODAL_SERVER_URL"
  | .tokenId => "MODAL_TOKEN_ID"
  | .tokenSecret => "MODAL_TOKEN_SECRET"
  | .environment => "MODAL_ENVIRONMENT"
  | .imageBuilderVersion => "MODAL_IMAGE_BUILDER_VERSION"
  | .logLevel => "MODAL_LOGLEVEL"

/-- What the config file says, with the default of the server. -/
def Setting.ofRaw (raw : RawProfile) : Setting → String
  | .serverUrl => if raw.serverUrl ≠ "" then raw.serverUrl else "https://api.modal.com:443"
  | .tokenId => raw.tokenId
  | .tokenSecret => raw.tokenSecret
  | .environment => raw.environment
  | .imageBuilderVersion => raw.imageBuilderVersion
  | .logLevel => raw.loglevel

def Setting.ofProfile (profile : Profile) : Setting → String
  | .serverUrl => profile.serverUrl
  | .tokenId => profile.tokenId
  | .tokenSecret => profile.tokenSecret
  | .environment => profile.environment
  | .imageBuilderVersion => profile.imageBuilderVersion
  | .logLevel => profile.logLevel

/-- Profiles with the same settings are the same. -/
theorem Profile.ext_setting {p q : Profile} (h : ∀ s : Setting, s.ofProfile p = s.ofProfile q) :
    p = q := by
  obtain ⟨⟩ := p
  obtain ⟨⟩ := q
  congr 1
  · exact h .serverUrl
  · exact h .tokenId
  · exact h .tokenSecret
  · exact h .environment
  · exact h .imageBuilderVersion
  · exact h .logLevel

theorem firstNonEmpty_cons (v : String) (values : List String) :
    firstNonEmpty (v :: values) = if v ≠ "" then v else firstNonEmpty values := rfl

theorem firstNonEmpty_singleton (v : String) : firstNonEmpty [v] = v := by
  rw [firstNonEmpty_cons]
  by_cases h : v = ""
  · rw [if_neg (not_not.mpr h), h]
    rfl
  · rw [if_pos h]

/-- **A setting is that of its variable**, if there is one, and that of the config file if not. -/
theorem resolveProfile_setting (env : Environment) (raw : RawProfile) (s : Setting) :
    s.ofProfile (resolveProfile env raw) =
      if env.var s.variable ≠ "" then env.var s.variable else s.ofRaw raw := by
  cases s with
  | serverUrl =>
    simp only [Setting.ofProfile, resolveProfile, Setting.variable, Setting.ofRaw]
    rw [firstNonEmpty_cons, firstNonEmpty_cons, firstNonEmpty_singleton]
    rfl
  | tokenId | tokenSecret | environment | imageBuilderVersion | logLevel =>
    simp only [Setting.ofProfile, resolveProfile, Setting.variable, Setting.ofRaw]
    rw [firstNonEmpty_cons, firstNonEmpty_singleton]
    rfl

/-- **Two profiles resolve to the same** exactly when they agree on every setting without a
    variable. -/
theorem resolveProfile_eq_iff (env : Environment) (raw raw' : RawProfile) :
    resolveProfile env raw = resolveProfile env raw' ↔
      ∀ s : Setting, env.var s.variable = "" → s.ofRaw raw = s.ofRaw raw' := by
  constructor
  · intro h s hvar
    have hsetting := congrArg s.ofProfile h
    rw [resolveProfile_setting, resolveProfile_setting, if_neg (not_not.mpr hvar),
      if_neg (not_not.mpr hvar)] at hsetting
    exact hsetting
  · intro h
    apply Profile.ext_setting
    intro s
    rw [resolveProfile_setting, resolveProfile_setting]
    by_cases hvar : env.var s.variable = ""
    · rw [if_neg (not_not.mpr hvar), if_neg (not_not.mpr hvar), h s hvar]
    · rw [if_pos hvar, if_pos hvar]

/-! ## 3. The choice -/

/-- A profile that is chosen; one whose name is empty is taken for none. -/
def chosenRaw (e : HashMap.Entry String RawProfile) : RawProfile := if e.1 ≠ "" then e.2 else {}

/-- **The choice is an active profile**, if there is one. -/
theorem firstActive_cases (order : List (HashMap.Entry String RawProfile)) :
    (∃ e ∈ order, e.2.active = true ∧ firstActive order = e.1) ∨
      ((∀ e ∈ order, ¬ e.2.active = true) ∧ firstActive order = "") := by
  induction order with
  | nil => exact Or.inr ⟨nofun, rfl⟩
  | cons e rest ih =>
    by_cases hactive : e.2.active = true
    · exact Or.inl ⟨e, List.mem_cons_self, hactive, if_pos hactive⟩
    · have hfirst : firstActive (e :: rest) = firstActive rest := if_neg hactive
      rw [hfirst]
      rcases ih with ⟨e', hmem, hactive', hname⟩ | ⟨hnone, hname⟩
      · exact Or.inl ⟨e', List.mem_cons_of_mem e hmem, hactive', hname⟩
      · exact Or.inr ⟨List.forall_mem_cons.mpr ⟨hactive, hnone⟩, hname⟩

section Orders

variable {env : Environment} {cfg : Config} {order : List (HashMap.Entry String RawProfile)}

/-- The profile of the choice. -/
theorem getProfile_of_choice {e : HashMap.Entry String RawProfile} (hentry : e ∈ cfg.entries)
    (hfirst : firstActive order = e.1) :
    getProfile env order "" cfg = resolveProfile env (chosenRaw e) := by
  have hlookup : cfg.lookup e.1 = some e.2 := Finmap.lookup_eq_some_iff.mpr hentry
  simp only [getProfile, chosenRaw]
  rw [if_pos rfl, hfirst, hlookup]
  rfl

/-- Without an active profile, there are no settings but the defaults. -/
theorem getProfile_of_none (hfirst : firstActive order = "") :
    getProfile env order "" cfg = resolveProfile env {} := by
  simp only [getProfile]
  rw [if_pos rfl, hfirst]
  rfl

/-- Every order gives the same profile. -/
def OrderIrrelevant (env : Environment) (cfg : Config) : Prop :=
  ∀ order order', cfg.Iterates order → cfg.Iterates order' →
    getProfile env order "" cfg = getProfile env order' "" cfg

/-- Any two active profiles have the same settings, but for those with a variable. -/
def ActiveAgree (env : Environment) (cfg : Config) : Prop :=
  ∀ e ∈ cfg.entries, ∀ e' ∈ cfg.entries, e.2.active = true → e'.2.active = true →
    ∀ s : Setting, env.var s.variable = "" → s.ofRaw (chosenRaw e) = s.ofRaw (chosenRaw e')

/-- Any active profile is the choice of some order. -/
theorem exists_order_of_active (env : Environment) {e : HashMap.Entry String RawProfile}
    (hentry : e ∈ cfg.entries) (hactive : e.2.active = true) :
    ∃ order, cfg.Iterates order ∧ getProfile env order "" cfg = resolveProfile env (chosenRaw e) := by
  obtain ⟨rest, horder⟩ := HashMap.exists_iterates_first hentry
  exact ⟨e :: rest, horder, getProfile_of_choice hentry (if_pos hactive)⟩

/-- **When the choice of a profile does not depend on the order of the config map**: exactly when
    the active profiles agree on every setting that no variable overrides. -/
theorem orderIrrelevant_iff (env : Environment) (cfg : Config) :
    OrderIrrelevant env cfg ↔ ActiveAgree env cfg := by
  constructor
  · intro hall e hentry e' hentry' hactive hactive'
    obtain ⟨order, horder, hprofile⟩ := exists_order_of_active env hentry hactive
    obtain ⟨order', horder', hprofile'⟩ := exists_order_of_active env hentry' hactive'
    have hsame := hall order order' horder horder'
    rw [hprofile, hprofile'] at hsame
    exact (resolveProfile_eq_iff env _ _).mp hsame
  · intro hagree order order' horder horder'
    rcases firstActive_cases order with ⟨e, hmem, hactive, hfirst⟩ | ⟨hnone, hfirst⟩
    · have hentry := horder.mem_iff.mp hmem
      rcases firstActive_cases order' with ⟨e', hmem', hactive', hfirst'⟩ | ⟨hnone', -⟩
      · have hentry' := horder'.mem_iff.mp hmem'
        rw [getProfile_of_choice hentry hfirst, getProfile_of_choice hentry' hfirst']
        exact (resolveProfile_eq_iff env _ _).mpr (hagree e hentry e' hentry' hactive hactive')
      · exact absurd hactive (hnone' e (horder'.mem_iff.mpr hentry))
    · rcases firstActive_cases order' with ⟨e', hmem', hactive', -⟩ | ⟨-, hfirst'⟩
      · have hentry' := horder'.mem_iff.mp hmem'
        exact absurd hactive' (hnone e' (horder.mem_iff.mpr hentry'))
      · rw [getProfile_of_none hfirst, getProfile_of_none hfirst']

end Orders

/-- **Two active profiles with different credentials**: without variables, each is the choice of
    some order. -/
theorem orderRelevant :
    let env : Environment := fun _ => none
    let one : RawProfile := { tokenId := "ak-1", active := true }
    let two : RawProfile := { tokenId := "ak-2", active := true }
    let cfg : Config := [⟨"one", one⟩, ⟨"two", two⟩].toFinmap
    (cfg.Iterates [⟨"one", one⟩, ⟨"two", two⟩] ∧ cfg.Iterates [⟨"two", two⟩, ⟨"one", one⟩]) ∧
      ((getProfile env [⟨"one", one⟩, ⟨"two", two⟩] "" cfg).tokenId = "ak-1" ∧
        (getProfile env [⟨"two", two⟩, ⟨"one", one⟩] "" cfg).tokenId = "ak-2") ∧
      ¬ ∀ env cfg, OrderIrrelevant env cfg := by
  intro env one two cfg
  have hfirst : cfg.Iterates [⟨"one", one⟩, ⟨"two", two⟩] := rfl
  have hother : cfg.Iterates [⟨"two", two⟩, ⟨"one", one⟩] :=
    (Multiset.coe_eq_coe.mpr (List.Perm.swap _ _ _)).trans hfirst
  refine ⟨⟨hfirst, hother⟩, ⟨rfl, rfl⟩, fun hall => ?_⟩
  have htoken := congrArg Profile.tokenId (hall env cfg _ _ hfirst hother)
  exact absurd htoken (by decide)

end ModalRs
