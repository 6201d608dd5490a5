import CodeAtlas.Proofs.Document.Characters
import CodeAtlas.Proofs.Document.Every

set_option autoImplicit false

/-! Documents written as JSON text and read back. -/

namespace CodeAtlas.Document

open CodeAtlas.Number

/-! ### Documents that are kept -/

def hasApartNames : Document → Bool
  | .object fields => decide (fields.map (·.1)).Nodup
  | _ => true

/-- No name stands twice in one object. -/
def isKeyed (document : Document) : Bool :=
  document.every hasApartNames

def hasStableFloat : Document → Bool
  | .float x =>
    match parse (floatText x) with
    | .ok (.float y) => decide (y = x)
    | _ => false
  | _ => true

/-- The text of each floating-point number is read back as the number. -/
def isStable (document : Document) : Bool :=
  document.every hasStableFloat

def isKept (document : Document) : Bool :=
  document.every fun value => hasShortInt value && hasApartNames value && hasStableFloat value

theorem isKept_of {document : Document} (writable : document.isWritable = true)
    (keyed : document.isKeyed = true) (stable : document.isStable = true) :
    document.isKept = true := by
  rw [isWritable] at writable
  rw [isKeyed] at keyed
  rw [isStable] at stable
  rw [isKept, every_and, every_and, writable, keyed, stable]
  rfl

/-! ### White space -/

theorem skipSpace_solid {c : Char} (solid : isSpace c = false) (index : Nat) (rest : List Char) :
    skipSpace index (c :: rest) = ⟨c :: rest, index⟩ := by
  rw [skipSpace, solid]
  rfl

theorem skipSpace_gap {gap : List Char} (blank : gap.all isSpace = true) {c : Char}
    (solid : isSpace c = false) (index : Nat) (rest : List Char) :
    ∃ later, skipSpace index (gap ++ c :: rest) = ⟨c :: rest, later⟩ := by
  induction gap generalizing index with
  | nil => exact ⟨index, skipSpace_solid solid index rest⟩
  | cons d gap ih =>
    rw [List.all_cons, Bool.and_eq_true] at blank
    obtain ⟨later, skipped⟩ := ih blank.2 (index + 1)
    exact ⟨later, by rw [List.cons_append, skipSpace, blank.1, if_pos rfl, skipped]⟩

theorem blank_newline (spacing : Spacing) : spacing.newline.all isSpace = true := by
  cases spacing with
  | line => rfl
  | block step depth =>
    rw [Spacing.newline, List.all_cons, List.all_replicate, show isSpace ' ' = true from rfl]
    split <;> rfl

theorem comma_gap (spacing : Spacing) : ∃ gap, spacing.comma = ',' :: gap ∧ gap.all isSpace = true := by
  cases spacing with
  | line => exact ⟨[' '], rfl, rfl⟩
  | block step depth => exact ⟨_, rfl, blank_newline _⟩

theorem ends_comma (spacing : Spacing) (rest : List Char) : Ends (spacing.comma ++ rest) := by
  cases spacing <;> exact .inl rfl

theorem ends_newline (spacing : Spacing) {c : Char} (closing : c = ']' ∨ c = '\x7d')
    (rest : List Char) : Ends (spacing.newline ++ c :: rest) := by
  cases spacing with
  | line => exact .inr (.inr closing)
  | block step depth => exact .inr (.inl rfl)

/-! ### Scalars -/

theorem readValue_scalar {c : Char} (opens : opensScalar c = true) (fuel index : Nat)
    (rest : List Char) : readValue (fuel + 1) ⟨c :: rest, index⟩ = readScalar ⟨c :: rest, index⟩ := by
  have quote : c ≠ '"' := opensScalar_apart opens rfl
  have bracket : c ≠ '[' := opensScalar_apart opens rfl
  have brace : c ≠ '\x7b' := opensScalar_apart opens rfl
  rw [readValue]
  split
  · next same => exact absurd (List.cons.inj same).1 quote
  · next same => exact absurd (List.cons.inj same).1 bracket
  · next same => exact absurd (List.cons.inj same).1 brace
  · rfl

theorem isSpace_opensScalar {c : Char} (opens : opensScalar c = true) : isSpace c = false := by
  have apart {d : Char} (never : opensScalar d = false) : decide (c = d) = false :=
    decide_eq_false (opensScalar_apart opens never)
  simp only [isSpace, apart (show opensScalar ' ' = false from rfl),
    apart (show opensScalar '\t' = false from rfl), apart (show opensScalar '\n' = false from rfl),
    apart (show opensScalar '\r' = false from rfl), Bool.or_self]

theorem skipSpace_visible (index : Nat) {text : List Char} (visible : text.all isVisible = true) :
    skipSpace index text = ⟨text, index⟩ := by
  cases text with
  | nil => rfl
  | cons c rest =>
    rw [List.all_cons, Bool.and_eq_true] at visible
    exact skipSpace_solid (not_isSpace_of_isVisible visible.1) index rest

theorem readValue_float {fuel index : Nat} {text : List Char} {x : Float} {after : Cursor}
    (read : readValue (fuel + 1) ⟨text, index⟩ = .ok (.float x, after)) :
    readScalar ⟨text, index⟩ = .ok (.float x, after) := by
  rw [readValue] at read
  split at read
  · next rest _ =>
    cases inner : readText index rest.length.succ [] ⟨rest, index + 1⟩ <;>
      rw [inner] at read <;> cases read
  · dsimp only at read
    split at read
    · cases read
    · cases inner : readItems fuel _ <;> rw [inner] at read <;> cases read
  · dsimp only at read
    split at read
    · cases read
    · cases inner : readFields fuel [] _ <;> rw [inner] at read <;> cases read
  · exact read

theorem readScalar_floatText {x : Float} (stable : hasStableFloat (.float x) = true) :
    Reads (readScalar ⟨floatText x, 0⟩) (.float x) [] := by
  have visible := visible_floatText x
  have parsed : parse (floatText x) = .ok (.float x) := by
    simp only [hasStableFloat] at stable
    split at stable
    · next y same => rw [same, of_decide_eq_true stable]
    · cases stable
  generalize floatText x = text at visible parsed ⊢
  unfold parse at parsed
  split at parsed
  · cases parsed
  rw [skipSpace_visible 0 visible] at parsed
  cases read : readValue (2 * text.length + 2) ⟨text, 0⟩ with
  | error failure =>
    rw [read] at parsed
    cases parsed
  | ok found =>
    obtain ⟨value, rest, last⟩ := found
    simp only [read, bind, Except.bind] at parsed
    split at parsed
    · next done =>
      cases parsed
      have scalar : Reads (readScalar ⟨text, 0⟩) (.float x) rest := ⟨last, readValue_float read⟩
      obtain ⟨front, rfl⟩ := readScalar_suffix scalar
      rw [List.all_append, Bool.and_eq_true] at visible
      rw [Cursor.space, skipSpace_visible last visible.2, List.isEmpty_iff] at done
      dsimp only at done
      subst done
      exact scalar
    · cases parsed

/-! ### What is written -/

theorem written_writeItems {items : List Document}
    (all : ∀ item ∈ items, ∀ spacing, (write spacing item).all isWritten = true)
    (spacing : Spacing) : (writeItems spacing items).all isWritten = true := by
  induction items with
  | nil => rfl
  | cons item items ih =>
    rw [List.forall_mem_cons] at all
    simp only [writeItems, List.all_append, written_comma, all.1 spacing, ih all.2, Bool.and_self]

theorem written_writeFields {fields : List (String × Document)}
    (all : ∀ field ∈ fields, ∀ spacing, (write spacing field.2).all isWritten = true)
    (spacing : Spacing) : (writeFields spacing fields).all isWritten = true := by
  induction fields with
  | nil => rfl
  | cons field fields ih =>
    rw [List.forall_mem_cons] at all
    simp only [writeFields, List.all_append, List.all_cons, written_comma, written_quoted,
      all.1 spacing, ih all.2, Bool.true_and]
    rfl

theorem written_write (document : Document) (spacing : Spacing) :
    (write spacing document).all isWritten = true := by
  induction document using induct generalizing spacing with
  | scalar document items fields =>
    cases document with
    | null => rfl
    | bool value => cases value <;> rfl
    | int n => exact written_of_visible (visible_intText n)
    | float x => exact written_of_visible (visible_floatText x)
    | text s => exact written_quoted s
    | list others => exact absurd rfl (items others)
    | object others => exact absurd rfl (fields others)
  | list items ih =>
    cases items with
    | nil => rfl
    | cons item items =>
      rw [List.forall_mem_cons] at ih
      simp only [write, List.all_append, List.all_cons, written_newline, ih.1 spacing.deeper,
        written_writeItems ih.2, Bool.and_true]
      rfl
  | object fields ih =>
    cases fields with
    | nil => rfl
    | cons field fields =>
      rw [List.forall_mem_cons] at ih
      simp only [write, List.all_append, List.all_cons, written_newline, written_quoted,
        ih.1 spacing.deeper, written_writeFields ih.2, Bool.and_true]
      rfl

/-! ### Reading what was written -/

def opensValue (c : Char) : Bool :=
  opensScalar c || c = '"' || c = '[' || c = '\x7b'

theorem isSpace_opensValue {c : Char} (opens : opensValue c = true) : isSpace c = false := by
  simp only [opensValue, Bool.or_eq_true, decide_eq_true_eq] at opens
  obtain ((scalar | rfl) | rfl) | rfl := opens
  · exact isSpace_opensScalar scalar
  all_goals rfl

/-- However a document is laid out, it is read back, and what is left is what stood behind it. -/
structure ReadsBack (document : Document) : Prop where
  opens : ∀ spacing, ∃ c rest, write spacing document = c :: rest ∧ opensValue c = true
  reads : ∀ spacing fuel index rest, Ends rest → 2 * (write spacing document).length ≤ fuel →
    Reads (readValue fuel ⟨write spacing document ++ rest, index⟩) document rest

theorem readsBack_scalar {document : Document}
    (read : ∀ spacing, Reads (readScalar ⟨write spacing document, 0⟩) document []) :
    ReadsBack document where
  opens spacing := by
    obtain ⟨c, more, same, opens⟩ := readScalar_head (read spacing)
    exact ⟨c, more, same, by rw [opensValue, opens]; rfl⟩
  reads spacing fuel index rest ends enough := by
    obtain ⟨c, more, same, opens⟩ := readScalar_head (read spacing)
    have whole := readScalar_append (read spacing) ends index
    rw [same] at enough whole ⊢
    cases fuel with
    | zero => cases enough
    | succ fuel =>
      rw [List.cons_append, readValue_scalar opens]
      exact whole

theorem readsBack_text (s : String) : ReadsBack (.text s) where
  opens spacing := ⟨'"', _, rfl, rfl⟩
  reads spacing fuel index rest ends enough := by
    obtain ⟨inner, same, last, read⟩ := readText_quoted s index (index + 1) rest
    cases fuel with
    | zero => cases enough
    | succ fuel =>
      refine ⟨last, ?_⟩
      rw [write, same, readValue]
      simp only [read]
      rfl

theorem skipSpace_write {document : Document} (back : ReadsBack document) (spacing : Spacing)
    {gap : List Char} (blank : gap.all isSpace = true) (index : Nat) (rest : List Char) :
    ∃ later, skipSpace index (gap ++ (write spacing document ++ rest)) =
      ⟨write spacing document ++ rest, later⟩ := by
  obtain ⟨c, more, same, opens⟩ := back.opens spacing
  rw [same]
  exact skipSpace_gap blank (isSpace_opensValue opens) index (more ++ rest)

theorem skipSpace_quoted (name : String) {gap : List Char} (blank : gap.all isSpace = true)
    (index : Nat) (rest : List Char) :
    ∃ later, skipSpace index (gap ++ (quoted name ++ rest)) = ⟨quoted name ++ rest, later⟩ :=
  skipSpace_gap blank rfl index _

theorem ends_writeItems (spacing outer : Spacing) (items : List Document) (rest : List Char) :
    Ends (writeItems spacing items ++ (outer.newline ++ ']' :: rest)) := by
  cases items with
  | nil => exact ends_newline outer (.inl rfl) rest
  | cons item items =>
    simp only [writeItems, List.append_assoc]
    exact ends_comma spacing _

theorem ends_writeFields (spacing outer : Spacing) (fields : List (String × Document))
    (rest : List Char) : Ends (writeFields spacing fields ++ (outer.newline ++ '\x7d' :: rest)) := by
  cases fields with
  | nil => exact ends_newline outer (.inr rfl) rest
  | cons field fields =>
    simp only [writeFields, List.append_assoc]
    exact ends_comma spacing _

theorem readItems_write (spacing outer : Spacing) {items : List Document} {item : Document}
    (back : ∀ value ∈ item :: items, ReadsBack value) {fuel : Nat} (index : Nat) (rest : List Char)
    (enough : 2 * (write spacing item ++ writeItems spacing items).length < fuel) :
    Reads (readItems fuel ⟨write spacing item ++
      (writeItems spacing items ++ (outer.newline ++ ']' :: rest)), index⟩) (item :: items) rest := by
  induction items generalizing item fuel index with
  | nil =>
    cases fuel with
    | zero => cases enough
    | succ fuel =>
      rw [writeItems, List.append_nil] at enough
      obtain ⟨last, read⟩ := (back item (by simp)).reads spacing fuel index _
        (ends_writeItems spacing outer [] rest) (Nat.le_of_lt_succ enough)
      obtain ⟨closing, gap⟩ := skipSpace_gap (blank_newline outer) (show isSpace ']' = false from rfl)
        last rest
      rw [readItems, read]
      rw [writeItems, List.nil_append]
      simp only [bind, Except.bind, Cursor.space, gap]
      exact ⟨_, rfl⟩
  | cons next items ih =>
    cases fuel with
    | zero => cases enough
    | succ fuel =>
      obtain ⟨first, second⟩ := List.forall_mem_cons.mp back
      obtain ⟨blank, comma, spaces⟩ := comma_gap spacing
      rw [writeItems, List.length_append, List.length_append, List.length_append, comma,
        List.length_cons] at enough
      obtain ⟨last, read⟩ := first.reads spacing fuel index _
        (ends_writeItems spacing outer (next :: items) rest) (by omega)
      rw [readItems, read]
      simp only [bind, Except.bind, Cursor.space]
      rw [writeItems, comma]
      simp only [List.append_assoc, List.cons_append]
      rw [skipSpace_solid (show isSpace ',' = false from rfl)]
      obtain ⟨later, skipped⟩ := skipSpace_write (second next (by simp)) spacing spaces (last + 1)
        (writeItems spacing items ++ (outer.newline ++ ']' :: rest))
      simp only [skipped]
      have enough : 2 * (write spacing next ++ writeItems spacing items).length < fuel := by
        rw [List.length_append]
        omega
      obtain ⟨final, others⟩ := ih second later enough
      rw [others]
      exact ⟨final, rfl⟩

-- The name of a field and the colon behind it.
theorem readFields_name (name : String) {value : Document} (back : ReadsBack value)
    (spacing : Spacing) (fuel index : Nat) (before : List (String × Document)) (rest : List Char) :
    ∃ later, readFields (fuel + 1) before
        ⟨quoted name ++ ':' :: ' ' :: (write spacing value ++ rest), index⟩ = (do
      let (value, after) ← readValue fuel ⟨write spacing value ++ rest, later⟩
      match after.space.rest with
      | '\x7d' :: rest => pure (Keyed.put name value before, ⟨rest, after.space.index + 1⟩)
      | ',' :: rest =>
        readFields fuel (Keyed.put name value before) (skipSpace (after.space.index + 1) rest)
      | _ => .error (.malformed .comma after.space.index)) := by
  obtain ⟨inner, same, last, read⟩ := readText_quoted name index (index + 1)
    (':' :: ' ' :: (write spacing value ++ rest))
  obtain ⟨later, skipped⟩ := skipSpace_write back spacing (show [' '].all isSpace = true from rfl)
    (last + 1) rest
  refine ⟨later, ?_⟩
  rw [same, readFields]
  simp only [read, bind, Except.bind, Cursor.space]
  rw [skipSpace_solid (show isSpace ':' = false from rfl)]
  simp only [List.singleton_append] at skipped
  exact skipped ▸ rfl

theorem readFields_write (spacing outer : Spacing) {fields before : List (String × Document)}
    {name : String} {value : Document}
    (back : ∀ field ∈ (name, value) :: fields, ReadsBack field.2)
    (apart : ((before ++ (name, value) :: fields).map (·.1)).Nodup) {fuel : Nat} (index : Nat)
    (rest : List Char)
    (enough : 2 * (quoted name ++ write spacing value ++ writeFields spacing fields).length < fuel) :
    Reads (readFields fuel before ⟨quoted name ++ ':' :: ' ' :: (write spacing value ++
      (writeFields spacing fields ++ (outer.newline ++ '\x7d' :: rest))), index⟩)
      (before ++ (name, value) :: fields) rest := by
  induction fields generalizing name value before fuel index with
  | nil =>
    cases fuel with
    | zero => cases enough
    | succ fuel =>
      rw [writeFields, List.append_nil, List.length_append] at enough
      obtain ⟨later, named⟩ := readFields_name name (back (name, value) (by simp)) spacing fuel index
        before (writeFields spacing [] ++ (outer.newline ++ '\x7d' :: rest))
      obtain ⟨last, read⟩ := (back (name, value) (by simp)).reads spacing fuel later _
        (ends_writeFields spacing outer [] rest) (by dsimp only; omega)
      obtain ⟨closing, gap⟩ := skipSpace_gap (blank_newline outer)
        (show isSpace '\x7d' = false from rfl) last rest
      rw [named, read]
      simp only [writeFields, List.nil_append, bind, Except.bind, Cursor.space, gap]
      rw [Keyed.put_fresh name value before (Keyed.fresh_of_apart apart)]
      exact ⟨_, rfl⟩
  | cons next fields ih =>
    cases fuel with
    | zero => cases enough
    | succ fuel =>
      obtain ⟨first, second⟩ := List.forall_mem_cons.mp back
      obtain ⟨blank, comma, spaces⟩ := comma_gap spacing
      simp only [writeFields, List.length_append, comma, List.length_cons] at enough
      obtain ⟨later, named⟩ := readFields_name name first spacing fuel index before
        (writeFields spacing (next :: fields) ++ (outer.newline ++ '\x7d' :: rest))
      obtain ⟨last, read⟩ := first.reads spacing fuel later _
        (ends_writeFields spacing outer (next :: fields) rest) (by dsimp only; omega)
      rw [named, read]
      simp only [bind, Except.bind, Cursor.space]
      rw [writeFields, comma]
      simp only [List.append_assoc, List.cons_append]
      rw [skipSpace_solid (show isSpace ',' = false from rfl)]
      obtain ⟨start, skipped⟩ := skipSpace_quoted next.1 spaces (last + 1)
        (':' :: ' ' :: (write spacing next.2 ++
          (writeFields spacing fields ++ (outer.newline ++ '\x7d' :: rest))))
      simp only [skipped]
      rw [Keyed.put_fresh name value before (Keyed.fresh_of_apart apart)]
      have apart : ((before ++ [(name, value)] ++ next :: fields).map (·.1)).Nodup := by
        rwa [List.append_assoc]
      have enough : 2 * (quoted next.1 ++ write spacing next.2 ++ writeFields spacing fields).length
          < fuel := by
        simp only [List.length_append]
        omega
      obtain ⟨final, others⟩ := ih second apart start enough
      rw [others, List.append_assoc]
      exact ⟨final, rfl⟩

theorem readValue_list {c : Char} (other : c ≠ ']') {gap rest : List Char} {fuel index later : Nat}
    (skipped : skipSpace (index + 1) gap = ⟨c :: rest, later⟩) :
    readValue (fuel + 1) ⟨'[' :: gap, index⟩ =
      (readItems fuel ⟨c :: rest, later⟩).map fun (items, after) => (.list items, after) := by
  rw [readValue]
  simp only [skipped]
  split
  · next same => exact absurd (List.cons.inj same).1 other
  · cases readItems fuel ⟨c :: rest, later⟩ <;> rfl

theorem readValue_object {c : Char} (other : c ≠ '\x7d') {gap rest : List Char}
    {fuel index later : Nat} (skipped : skipSpace (index + 1) gap = ⟨c :: rest, later⟩) :
    readValue (fuel + 1) ⟨'\x7b' :: gap, index⟩ =
      (readFields fuel [] ⟨c :: rest, later⟩).map fun (fields, after) => (.object fields, after) := by
  rw [readValue]
  simp only [skipped]
  split
  · next same => exact absurd (List.cons.inj same).1 other
  · cases readFields fuel [] ⟨c :: rest, later⟩ <;> rfl

theorem readsBack_list {items : List Document} (back : ∀ item ∈ items, ReadsBack item) :
    ReadsBack (.list items) where
  opens spacing := by cases items <;> exact ⟨'[', _, rfl, rfl⟩
  reads spacing fuel index rest ends enough := by
    cases fuel with
    | zero => cases items <;> cases enough
    | succ fuel =>
      cases items with
      | nil => exact ⟨_, rfl⟩
      | cons item items =>
        have first := back item List.mem_cons_self
        simp only [write, List.length_append, List.length_cons] at enough
        have inside : 2 * (write spacing.deeper item ++ writeItems spacing.deeper items).length
            < fuel := by
          rw [List.length_append]
          omega
        simp only [write, List.append_assoc, List.cons_append, List.nil_append]
        obtain ⟨later, skipped⟩ := skipSpace_write first spacing.deeper
          (blank_newline spacing.deeper) (index + 1)
          (writeItems spacing.deeper items ++ (spacing.newline ++ ']' :: rest))
        obtain ⟨last, read⟩ := readItems_write spacing.deeper spacing back later rest inside
        obtain ⟨c, more, same, opens⟩ := first.opens spacing.deeper
        rw [same, List.cons_append] at skipped read ⊢
        have other : c ≠ ']' := by
          rintro rfl
          cases opens
        refine ⟨last, ?_⟩
        rw [readValue_list other skipped, read]
        rfl

theorem readsBack_object {fields : List (String × Document)}
    (back : ∀ field ∈ fields, ReadsBack field.2) (apart : (fields.map (·.1)).Nodup) :
    ReadsBack (.object fields) where
  opens spacing := by cases fields <;> exact ⟨'\x7b', _, rfl, rfl⟩
  reads spacing fuel index rest ends enough := by
    cases fuel with
    | zero => cases fields <;> cases enough
    | succ fuel =>
      cases fields with
      | nil => exact ⟨_, rfl⟩
      | cons field fields =>
        obtain ⟨name, value⟩ := field
        simp only [write, List.length_append, List.length_cons] at enough
        have inside : 2 * (quoted name ++ write spacing.deeper value ++
            writeFields spacing.deeper fields).length < fuel := by
          simp only [List.length_append]
          omega
        simp only [write, List.append_assoc, List.cons_append, List.nil_append]
        obtain ⟨later, skipped⟩ := skipSpace_quoted name (blank_newline spacing.deeper) (index + 1)
          (':' :: ' ' :: (write spacing.deeper value ++
            (writeFields spacing.deeper fields ++ (spacing.newline ++ '\x7d' :: rest))))
        have whole : ([] : List (String × Document)) ++ (name, value) :: fields =
          (name, value) :: fields := rfl
        obtain ⟨last, read⟩ := readFields_write spacing.deeper spacing back (whole ▸ apart) later rest
          inside
        refine ⟨last, ?_⟩
        rw [quoted, List.cons_append, List.cons_append] at skipped read ⊢
        rw [readValue_object (by decide) skipped, read]
        rfl

theorem isKept_list {items : List Document} :
    (Document.list items).isKept = true ↔ ∀ item ∈ items, item.isKept = true := by
  rw [isKept, every, Bool.and_eq_true, everyItem_iff]
  exact and_iff_right rfl

theorem isKept_object {fields : List (String × Document)} :
    (Document.object fields).isKept = true ↔
      (fields.map (·.1)).Nodup ∧ ∀ field ∈ fields, field.2.isKept = true := by
  rw [isKept, every, Bool.and_eq_true, everyField_iff]
  simp [hasShortInt, hasApartNames, hasStableFloat, isKept]

theorem readsBack_of_isKept {document : Document} (kept : document.isKept = true) :
    ReadsBack document := by
  induction document using induct with
  | scalar document items fields =>
    rw [isKept, every_scalar items fields, Bool.and_eq_true, Bool.and_eq_true] at kept
    obtain ⟨⟨short, -⟩, stable⟩ := kept
    cases document with
    | null => exact readsBack_scalar fun _ => ⟨_, rfl⟩
    | bool value => cases value <;> exact readsBack_scalar fun _ => ⟨_, rfl⟩
    | int n => exact readsBack_scalar fun _ => readScalar_intText short 0
    | float x => exact readsBack_scalar fun _ => readScalar_floatText stable
    | text s => exact readsBack_text s
    | list others => exact absurd rfl (items others)
    | object others => exact absurd rfl (fields others)
  | list items ih =>
    have inside := isKept_list.mp kept
    exact readsBack_list fun item member => ih item member (inside item member)
  | object fields ih =>
    obtain ⟨apart, inside⟩ := isKept_object.mp kept
    exact readsBack_object (fun field member => ih field member (inside field member)) apart

theorem parse_write {document : Document} (kept : document.isKept = true) (spacing : Spacing) :
    parse (write spacing document) = .ok document := by
  have back := readsBack_of_isKept kept
  obtain ⟨c, more, same, opens⟩ := back.opens spacing
  obtain ⟨last, read⟩ := back.reads spacing (2 * (write spacing document).length + 2) 0 [] trivial
    (Nat.le_add_right _ _)
  rw [List.append_nil] at read
  unfold parse
  split
  · next mark =>
    rw [same] at mark
    cases mark
    cases opens
  · rw [same] at read ⊢
    rw [skipSpace_solid (isSpace_opensValue opens), read]
    rfl

end CodeAtlas.Document
