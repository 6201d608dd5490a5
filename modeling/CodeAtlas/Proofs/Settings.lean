import CodeAtlas.Command.Run
import CodeAtlas.Proofs.Number.Reading

set_option autoImplicit false

/-! Settings from any environment are fit for use, and an atlas is opened with what they say. -/

namespace CodeAtlas

open CodeAtlas.Embedding CodeAtlas.Files CodeAtlas.Index CodeAtlas.Number CodeAtlas.Rules

namespace Settings

theorem intOf_least (env : Environment) (name : String) {default least : Int}
    (enough : least ≤ default) : least ≤ intOf env name default least := by
  rw [intOf]
  split
  next n _ => exact Int.le_max_right n least
  next => exact enough

/-- Batches are of some size, and there are some workers. -/
structure Fit (settings : Settings) : Prop where
  batches : 0 < settings.batchSize
  workers : 0 < settings.workers
  least : 0 ≤ settings.least

theorem ofEnvironment_fit (env : Environment) : (ofEnvironment env).Fit where
  batches := intOf_least env "CODEINDEX_BATCH_SIZE" (by decide)
  workers := intOf_least env "CODEINDEX_WORKERS" (by decide)
  least := intOf_least env "CODEINDEX_MIN_BODY_SIZE" (by decide)

/-! ### Pauses -/

-- What is no number is not less than the least pause, so it stays as it is.
theorem leastPoll_le (x : Float) :
    leastPoll ≤ (if x < leastPoll then leastPoll else x) ↔ x.isNaN = false := by
  constructor
  · intro enough
    split at enough
    next short => exact numeric_of_lt short
    next => exact numeric_of_le enough
  · intro number
    split
    next => decide +kernel
    next long => exact le_of_not_lt number (by decide +kernel) long

/-- The text under this name, if there is one, is read as something else than a number. -/
def NoNumber (env : Environment) (name : String) : Prop :=
  ∃ raw, valueOf env name = some raw ∧ SaysNaN raw.toList

theorem noNumber_iff (env : Environment) (name : String) :
    NoNumber env name ↔
      ∃ x, ((valueOf env name).bind fun raw => readFloat raw.toList) = some x ∧ x.isNaN = true := by
  simp only [NoNumber, ← readFloat_isNaN, Option.bind_eq_some_iff]
  grind

theorem secondsOf_least (env : Environment) (name : String) {default : Float}
    (enough : leastPoll ≤ default) :
    leastPoll ≤ secondsOf env name default ↔ ¬NoNumber env name := by
  rw [noNumber_iff, secondsOf]
  cases (valueOf env name).bind fun raw => readFloat raw.toList with
  | none => simp [enough]
  | some x => simp [leastPoll_le]

theorem secondsOf_isNaN (env : Environment) (name : String) {default : Float}
    (enough : leastPoll ≤ default) :
    (secondsOf env name default).isNaN = true ↔ NoNumber env name := by
  constructor
  · intro none
    by_contra other
    have number := numeric_of_le ((secondsOf_least env name enough).mpr other)
    rw [none] at number
    cases number
  · rw [noNumber_iff]
    rintro ⟨x, read, none⟩
    have stays : ¬x < leastPoll := by
      intro short
      rw [numeric_of_lt short] at none
      cases none
    rw [secondsOf, read]
    dsimp only
    rwa [if_neg stays]

/-- Whatever the environment says, there are batches of some size, some workers and a bound on small
bodies. The pause between two looks is long enough unless the environment says in so many letters
that it is no number, and then it is none. -/
theorem ofEnvironment_usable (env : Environment) :
    1 ≤ (ofEnvironment env).batchSize ∧ 1 ≤ (ofEnvironment env).workers ∧
      0 ≤ (ofEnvironment env).least ∧
      (leastPoll ≤ (ofEnvironment env).pollSeconds ↔
        ¬NoNumber env "CODEINDEX_CONFIG_POLL_SECONDS") ∧
      ((ofEnvironment env).pollSeconds.isNaN = true ↔
        NoNumber env "CODEINDEX_CONFIG_POLL_SECONDS") := by
  have fit := ofEnvironment_fit env
  have enough : leastPoll ≤ (2 : Float) := by decide +kernel
  exact ⟨fit.batches, fit.workers, fit.least, secondsOf_least env _ enough, secondsOf_isNaN env _ enough⟩

theorem ofEnvironment_unusable :
    ¬∀ env : Environment, 1 ≤ (ofEnvironment env).batchSize ∧ 1 ≤ (ofEnvironment env).workers ∧
      0 ≤ (ofEnvironment env).least ∧ leastPoll ≤ (ofEnvironment env).pollSeconds := by
  intro usable
  have enough := (usable [("CODEINDEX_CONFIG_POLL_SECONDS", "nan")]).2.2.2
  exact absurd enough (by decide +kernel)

end Settings

namespace Command

-- Options on the command line change no number.
theorem settingsFor_fit (s : Surroundings) (rulesPath backend : String) (noCache : Bool) :
    (settingsFor s rulesPath backend noCache).Fit :=
  have fit := Settings.ofEnvironment_fit s.environment
  ⟨fit.batches, fit.workers, fit.least⟩

theorem openAtlas_ok {s : Surroundings} {settings : Settings} {a : Atlas} {w : Workspace}
    (opened : openAtlas s settings = .ok (a, w)) :
    ∃ backend, Backend.named settings.backend settings.model settings.key = .ok backend ∧
      a = .empty (.ofPath settings.rulesPath) (.empty backend settings.batchSize)
        (if settings.cacheFolder.isEmpty then none else some s.cache) settings.least := by
  rw [openAtlas] at opened
  cases named : Backend.named settings.backend settings.model settings.key with
  | error fault => simp [named, bind, Except.bind] at opened
  | ok backend =>
    simp only [named, bind, Except.bind] at opened
    refine ⟨backend, rfl, ?_⟩
    by_cases uncached : settings.cacheFolder.isEmpty = true
    · rw [if_pos uncached] at opened ⊢
      exact (Prod.mk.inj (Except.ok.inj opened)).1.symm
    · rw [if_neg uncached] at opened ⊢
      cases made : s.workspace.makeFolder (.ofText settings.cacheFolder) with
      | error fault => simp [made] at opened
      | ok workspace =>
        rw [made] at opened
        exact (Prod.mk.inj (Except.ok.inj opened)).1.symm

-- The index of an atlas embeds in batches of some size, whatever the environment says.
theorem openAtlas_batches {s : Surroundings} {rulesPath backend : String} {noCache : Bool}
    {a : Atlas} {w : Workspace}
    (opened : openAtlas s (settingsFor s rulesPath backend noCache) = .ok (a, w)) :
    0 < a.index.batchSize := by
  obtain ⟨usable, -, rfl⟩ := openAtlas_ok opened
  exact (settingsFor_fit s rulesPath backend noCache).batches

end Command

end CodeAtlas
