import CodeAtlas.Embedding.Cache
import CodeAtlas.Proofs.Keyed
import Mathlib.Data.Set.Function

set_option autoImplicit false

/-! Caches that can be trusted: what can be read from them was made from a text. -/

namespace CodeAtlas.Embedding.Cache

/-- Each embedding that can be read is the one that `f` has for some text of `texts`, and is kept under
the key of that text. -/
def Sound (cache : Cache) (f : String → Option Embedding) (model : String) (texts : Set String) :
    Prop :=
  ∀ key vector, Keyed.lookup key cache.entries = some (.vector vector) →
    ∃ text ∈ texts, key = cacheKey model text ∧ f text = some vector

variable {cache : Cache} {f : String → Option Embedding} {model : String} {texts : Set String}

theorem Sound.put (sound : cache.Sound f model texts) {text : String} (inPlay : text ∈ texts)
    {vector : Embedding} (value : f text = some vector) :
    (cache.put (cacheKey model text) (.vector vector)).Sound f model texts := by
  intro other given found
  rw [Cache.put, Keyed.lookup_put] at found
  split at found
  next same =>
    rw [beq_iff_eq] at same
    obtain rfl := Kept.vector.inj (Option.some.inj found)
    exact ⟨text, inPlay, same.symm, value⟩
  next => exact sound other given found

/-- The embedding that can be read under a key. -/
def vector? (cache : Cache) (key : String) : Option Embedding :=
  match Keyed.lookup key cache.entries with
  | some (.vector vector) => some vector
  | _ => none

theorem vector?_eq_some (cache : Cache) (key : String) (vector : Embedding) :
    cache.vector? key = some vector ↔ Keyed.lookup key cache.entries = some (.vector vector) := by
  rw [vector?]
  split
  next given found => simp [found]
  next none => simpa using none vector

theorem get_fst (cache : Cache) (key : String) : (cache.get key).1 = cache.vector? key := by
  rw [get, vector?]
  split
  next vector found => simp [found]
  next found => simp [found]
  next found => simp [found]

-- Looking up drops only what cannot be read.
theorem vector?_get (cache : Cache) (key other : String) :
    (cache.get key).2.vector? other = cache.vector? other := by
  rw [get]
  split
  next => rfl
  next unreadable =>
    rw [vector?, Keyed.lookup_erase, vector?]
    by_cases same : key = other
    · subst same
      simp [unreadable]
    · simp [same]
  next => rfl

theorem vector?_put (cache : Cache) (key other : String) (vector : Embedding) :
    (cache.put key (.vector vector)).vector? other =
      if key == other then some vector else cache.vector? other := by
  rw [vector?, Cache.put, Keyed.lookup_put]
  by_cases same : key = other
  · simp [same]
  · simp [same, vector?]

theorem sound_iff : cache.Sound f model texts ↔ ∀ key vector, cache.vector? key = some vector →
    ∃ text ∈ texts, key = cacheKey model text ∧ f text = some vector := by
  simp only [Sound, vector?_eq_some]

theorem Sound.of_vector? (sound : cache.Sound f model texts) {other : Cache}
    (same : ∀ key, other.vector? key = cache.vector? key) : other.Sound f model texts := by
  rw [sound_iff] at sound ⊢
  intro key vector found
  exact sound key vector (same key ▸ found)

-- What can be read under the key of a text in play was made from that text.
theorem Sound.vector?_eq (sound : cache.Sound f model texts) (apart : texts.InjOn (cacheKey model))
    {text : String} (inPlay : text ∈ texts) {vector : Embedding}
    (found : cache.vector? (cacheKey model text) = some vector) : f text = some vector := by
  obtain ⟨other, member, same, value⟩ := sound_iff.mp sound _ _ found
  rw [apart inPlay member same]
  exact value

end CodeAtlas.Embedding.Cache
