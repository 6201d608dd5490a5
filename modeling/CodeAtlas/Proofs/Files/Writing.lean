import CodeAtlas.Files.Workspace
import CodeAtlas.Proofs.Keyed

set_option autoImplicit false

/-! What stands at a location after a file was written there, or deleted. -/

namespace CodeAtlas.Files.Workspace

/-! ### Ways -/

theorem node?_put (w : Workspace) (count : Nat) (spot other : Spot) (node : Node) :
    node? { w with nodes := Keyed.put spot node w.nodes, writes := count } other =
      if isAround other || other == rootSpot then some .folder
      else if spot == other then some node
      else w.node? other := by
  rw [node?, node?]
  split
  · rfl
  · rw [Keyed.lookup_put]

/-- The way to a spot leads through folders, and through the same ones where these are still there and
as open. -/
theorem walk_of_folders {w later : Workspace}
    (locks : later.locks = w.locks)
    (folders : ∀ spot, w.node? spot = some .folder → later.node? spot = some .folder)
    {names : List String} {start spot : Spot} (walked : w.walk start names = .ok spot) :
    later.walk start names = .ok spot := by
  induction names generalizing start with
  | nil => exact walked
  | cons name rest ih =>
    unfold walk at walked ⊢
    split at walked
    · cases walked
    · cases walked
    · next folder =>
      have same : later.isClosed start = w.isClosed start := by rw [isClosed, locks, isClosed]
      rw [folders start folder]
      dsimp only
      split at walked
      · cases walked
      · next opened =>
        rw [same, if_neg opened]
        split at walked
        · cases walked
        · next short =>
          rw [if_neg short]
          exact ih walked

theorem walk_spot {w : Workspace} {names : List String} {start spot : Spot}
    (walked : w.walk start names = .ok spot) : spot = names.foldl enter start := by
  induction names generalizing start with
  | nil =>
    cases walked
    rfl
  | cons name rest ih =>
    unfold walk at walked
    split at walked
    · cases walked
    · cases walked
    · split at walked
      · cases walked
      · split at walked
        · cases walked
        · exact ih walked

theorem spotOf_ok {w : Workspace} {location : Location} {spot : Spot} :
    w.spotOf location = .ok spot ↔
      location.isNameable = true ∧ location.text.utf8ByteSize ≤ locationLimit ∧
        w.walk (startOf location) location.segments = .ok spot := by
  rw [spotOf, ← Nat.not_lt]
  cases location.isNameable with
  | false => simp
  | true =>
    by_cases long : locationLimit < location.text.utf8ByteSize
    · simp [long]
    · cases w.walk (startOf location) location.segments <;> simp [long, Except.mapError]

theorem nodeAt_of_spotOf {w : Workspace} {location : Location} {spot : Spot} {node : Node}
    (found : w.spotOf location = .ok spot) (here : w.node? spot = some node) :
    w.nodeAt location = .ok node := by
  rw [nodeAt, found]
  simp only [bind, Except.bind, here]
  rfl

theorem nodeAt_ok {w : Workspace} {location : Location} {node : Node}
    (here : w.nodeAt location = .ok node) :
    ∃ spot, w.spotOf location = .ok spot ∧ w.node? spot = some node := by
  rw [nodeAt] at here
  cases found : w.spotOf location with
  | error fault =>
    rw [found] at here
    cases here
  | ok spot =>
    simp only [found, bind, Except.bind] at here
    split at here
    · next node same =>
      cases here
      exact ⟨spot, rfl, same⟩
    · cases here

/-! ### Writing and deleting -/

theorem write_ok {w later : Workspace} {location : Location} {bytes : List UInt8}
    {time : Option Float} (written : w.write location bytes time = .ok later) :
    ∃ spot, w.spotOf location = .ok spot ∧ w.node? spot ≠ some .folder ∧ w.forbids spot = false ∧
      later = { w with
        nodes := Keyed.put spot (.file ⟨bytes, (time.map Stamp.given).getD (.fresh w.writes)⟩) w.nodes
        writes := w.writes + 1 } := by
  rw [write] at written
  cases found : w.spotOf location with
  | error fault =>
    rw [found] at written
    cases written
  | ok spot =>
    simp only [found, bind, Except.bind] at written
    split at written
    · cases written
    · next other =>
      split at written
      · cases written
      · next free =>
        cases written
        exact ⟨spot, rfl, other, by simpa using free, rfl⟩

theorem isClosed_of_unlocked {w : Workspace} {spot : Spot} (unlocked : w.isLocked spot = false) :
    w.isClosed spot = false := by
  rw [isLocked, Option.isSome_eq_false_iff, Option.isNone_iff_eq_none] at unlocked
  rw [isClosed, unlocked]
  rfl

/-- A file stands where it was written, and can be read there. -/
theorem write_spotOf {w later : Workspace} {location : Location} {bytes : List UInt8}
    {time : Option Float} (written : w.write location bytes time = .ok later) :
    ∃ spot, later.spotOf location = .ok spot ∧ later.isClosed spot = false ∧
      later.node? spot =
        some (.file ⟨bytes, (time.map Stamp.given).getD (.fresh w.writes)⟩) := by
  obtain ⟨spot, found, other, free, rfl⟩ := write_ok written
  have outside : (isAround spot || spot == rootSpot) = false := by
    cases inside : isAround spot || spot == rootSpot with
    | false => rfl
    | true => exact absurd (by rw [node?, if_pos inside]) other
  obtain ⟨nameable, short, walked⟩ := spotOf_ok.mp found
  refine ⟨spot, ?_, isClosed_of_unlocked (Bool.or_eq_false_iff.mp free).1, ?_⟩
  · refine spotOf_ok.mpr ⟨nameable, short, walk_of_folders ?_ ?_ walked⟩
    · rfl
    · intro passed folder
      rw [node?_put]
      split
      · rfl
      · split
        · next same =>
          rw [beq_iff_eq] at same
          exact absurd (same ▸ folder) other
        · exact folder
  · rw [node?_put, outside]
    simp

theorem write_nodeAt {w later : Workspace} {location : Location} {bytes : List UInt8}
    {time : Option Float} (written : w.write location bytes time = .ok later) :
    later.nodeAt location =
      .ok (.file ⟨bytes, (time.map Stamp.given).getD (.fresh w.writes)⟩) := by
  obtain ⟨spot, found, -, here⟩ := write_spotOf written
  exact nodeAt_of_spotOf found here

theorem write_read {w later : Workspace} {location : Location} {bytes : List UInt8}
    {time : Option Float} (written : w.write location bytes time = .ok later) :
    later.read location = .ok bytes := by
  obtain ⟨spot, found, opened, -⟩ := write_spotOf written
  have free : later.isClosedAt location = false := by
    rw [isClosedAt, found]
    exact opened
  rw [read, write_nodeAt written]
  simp only [bind, Except.bind, free]
  rfl

theorem delete_nodeAt (w : Workspace) (location : Location) (stored : StoredFile) :
    (w.delete location).nodeAt location ≠ .ok (.file stored) := by
  rw [delete]
  cases found : w.spotOf location with
  | error fault =>
    dsimp only
    rw [nodeAt, found]
    intro here
    cases here
  | ok spot =>
    intro here
    obtain ⟨other, again, file⟩ := nodeAt_ok here
    have same : other = spot := by
      rw [walk_spot (spotOf_ok.mp again).2.2, walk_spot (spotOf_ok.mp found).2.2]
    rw [same, node?] at file
    split at file
    · cases file
    · rw [Keyed.lookup_erase, if_pos (beq_self_eq_true spot)] at file
      cases file

/-! ### What is read -/

theorem stamp?_file {w : Workspace} {location : Location} {stored : StoredFile}
    (here : w.nodeAt location = .ok (.file stored)) :
    w.stamp? location = .ok (some stored.stamp) := by
  rw [stamp?, here]

end CodeAtlas.Files.Workspace
