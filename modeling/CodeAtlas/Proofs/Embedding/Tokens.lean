import CodeAtlas.Embedding.Hashing
import CodeAtlas.Proofs.Embedding.Pieces
import CodeAtlas.Proofs.Text.Runs

set_option autoImplicit false

/-! The tokens of a text: nothing of its letters and digits is lost on the way to them, and a text that
is made of tokens has just these. -/

namespace CodeAtlas.Embedding

open CodeAtlas.Text

theorem runs_eq (text : List Char) : runs text = runsOf isTokenChar text := by
  rw [runs, splitWhere_eq_splitOnP, runsOf]

theorem runs_split (text : List Char) : Runs isTokenChar text (runs text) := by
  rw [runs_eq]
  exact runs_runsOf isTokenChar text

theorem segments_flatten (text : List Char) : (segments text).flatten = text.filter isTokenChar := by
  have split := runs_split text
  have whole (found : List (List Char)) (inside : ∀ run ∈ found, ∀ c ∈ run, isTokenChar c = true) :
      (found.flatMap pieces).flatten = found.flatten := by
    induction found with
    | nil => rfl
    | cons run found ih =>
      have first := (cut_pieces (inside run List.mem_cons_self)).flatten
      have later := ih fun other member => inside other (List.mem_cons_of_mem run member)
      rw [List.flatMap_cons, List.flatten_append, first, later, List.flatten_cons]
  rw [segments, whole (runs text) fun run member => (split.word member).2, split.flatten]

theorem segments_isPiece {text piece : List Char} (member : piece ∈ segments text) :
    IsPiece piece := by
  obtain ⟨run, found, inside⟩ := List.mem_flatMap.mp member
  exact (cut_pieces ((runs_split text).word found).2).isPiece inside

/-- Digits, or lower-case letters. -/
structure IsWord (word : List Char) : Prop where
  nonempty : word ≠ []
  alike : (∀ c ∈ word, isNumeral c = true) ∨ ∀ c ∈ word, isLowerLetter c = true

section

variable {c : Char} {word : List Char}

theorem lowerLetter_upper (upper : isUpperLetter c = true) : isLowerLetter (lowerLetter c) = true := by
  have code := (isUpperLetter_iff c).mp upper
  have valid : (c.toNat + 32).isValidChar := .inl (by omega)
  have lowered : (Char.ofNat (c.toNat + 32)).toNat = c.toNat + 32 := by
    rw [Char.ofNat, dif_pos valid]
    rfl
  rw [lowerLetter, if_pos upper, isLowerLetter_iff, lowered]
  omega

theorem lowerLetter_of_not_upper (other : isUpperLetter c = false) : lowerLetter c = c := by
  rw [lowerLetter, other]
  rfl

theorem IsPiece.lowered (piece : IsPiece word) : IsWord (word.map lowerLetter) := by
  refine ⟨by simpa using piece.1, ?_⟩
  simp only [List.forall_mem_map]
  rcases piece.2 with numerals | capitals | ⟨front, rest, rfl, -, capitals, -, letters⟩
  · refine .inl fun c member => ?_
    have numeral := numerals c member
    rwa [lowerLetter_of_not_upper (numeral_apart numeral).2]
  · exact .inr fun c member => lowerLetter_upper (capitals c member)
  · refine .inr fun c member => ?_
    rcases List.mem_append.mp member with inside | inside
    · exact lowerLetter_upper (capitals c inside)
    · have lower := letters c inside
      rwa [lowerLetter_of_not_upper (lower_apart lower).1]

theorem IsWord.chars (plain : IsWord word) : ∀ c ∈ word, isTokenChar c = true := by
  intro c member
  rcases plain.alike with numerals | letters
  · simp [isTokenChar, numerals c member]
  · simp [isTokenChar, letters c member]

theorem IsWord.lowered (plain : IsWord word) : word.map lowerLetter = word := by
  refine (List.map_congr_left fun c member => ?_).trans (List.map_id word)
  apply lowerLetter_of_not_upper
  rcases plain.alike with numerals | letters
  · exact (numeral_apart (numerals c member)).2
  · exact (lower_apart (letters c member)).1

theorem pieces_joined (nonempty : word ≠ [])
    (joined : ∀ c ∈ word, ∀ d ∈ word, ∀ rest, joins c (d :: rest) = true) :
    pieces word = [word] := by
  induction word with
  | nil => exact absurd rfl nonempty
  | cons c word ih =>
    cases word with
    | nil => rfl
    | cons d rest =>
      have later := ih (List.cons_ne_nil d rest) fun a inside b member =>
        joined a (List.mem_cons_of_mem c inside) b (List.mem_cons_of_mem c member)
      have first := joined c List.mem_cons_self d (List.mem_cons_of_mem c List.mem_cons_self) rest
      rw [pieces, later]
      simp only [first, if_true]

theorem IsWord.pieces (plain : IsWord word) : pieces word = [word] := by
  refine pieces_joined plain.nonempty fun c first d second rest => ?_
  rcases plain.alike with numerals | letters
  · rw [joins_numeral (numerals c first), numerals d second]
  · rw [joins_lower (letters c first), letters d second]

end

theorem tokensOf_isWord {text word : List Char} (member : word ∈ tokensOf text) :
    IsWord word ∧ isStopWord word = false := by
  obtain ⟨lowered, kept⟩ := List.mem_filter.mp member
  obtain ⟨piece, inside, rfl⟩ := List.mem_map.mp lowered
  exact ⟨(segments_isPiece inside).lowered, by simpa using kept⟩

theorem tokensOf_word {word : List Char} (plain : IsWord word) (other : isStopWord word = false) :
    tokensOf word = [word] := by
  have found : segments word = [word] := by
    rw [segments, runs_eq, runsOf_word plain.nonempty plain.chars, List.flatMap_singleton,
      plain.pieces]
  simp [tokensOf, found, plain.lowered, other]

theorem tokensOf_intercalate {gap : List Char} (wide : gap ≠ [])
    (plain : ∀ c ∈ gap, isTokenChar c = false) (parts : List (List Char)) :
    tokensOf (gap.intercalate parts) = parts.flatMap tokensOf := by
  have split : segments (gap.intercalate parts) = parts.flatMap segments := by
    rw [segments, runs_eq, runsOf_intercalate wide plain, ← funext runs_eq, List.flatMap_assoc]
    rfl
  rw [tokensOf, split, List.map_flatMap, List.filter_flatMap]
  rfl

-- Texts with something between them keep their own tokens.
theorem tokens_join {separator : String} (wide : separator ≠ "")
    (plain : ∀ c ∈ separator.toList, isTokenChar c = false) (texts : List String) :
    tokens (join separator texts) = texts.flatMap tokens := by
  rw [tokens, join, String.toList_intercalate, tokensOf_intercalate (by simpa using wide) plain,
    List.map_flatMap, List.flatMap_map]
  rfl

theorem plain_of_all {separator : String}
    (all : separator.toList.all (!isTokenChar ·) = true) :
    ∀ c ∈ separator.toList, isTokenChar c = false := by
  simpa using all

theorem tokens_token {text token : String} (member : token ∈ tokens text) :
    tokens token = [token] := by
  obtain ⟨word, found, rfl⟩ := List.mem_map.mp member
  obtain ⟨plain, other⟩ := tokensOf_isWord found
  rw [tokens, String.toList_ofList, tokensOf_word plain other]
  rfl

theorem tokens_join_tokens {separator : String} (wide : separator ≠ "")
    (plain : ∀ c ∈ separator.toList, isTokenChar c = false) (text : String) :
    tokens (join separator (tokens text)) = tokens text := by
  rw [tokens_join wide plain, List.flatMap_congr fun _ => tokens_token]
  exact List.flatMap_singleton' (tokens text)

/-- Every letter and digit of a text stands in one of its segments, in order: the longest runs of them
are cut into pieces, as the written shape finds them. The tokens of a text, with anything between them
that is neither letter nor digit, make a text with the same tokens, so with the same embedding. -/
theorem tokens_normal :
    (∀ text : List Char,
      Runs isTokenChar text (runs text) ∧
      segments text = (runs text).flatMap (fun run => (pieceShape.findAll run).map (·.text)) ∧
      (segments text).flatten = text.filter isTokenChar ∧
      ∀ run ∈ runs text, (pieces run).flatten = run ∧ ∀ piece ∈ pieces run, IsPiece piece) ∧
    ∀ text separator : String, separator ≠ "" → (∀ c ∈ separator.toList, isTokenChar c = false) →
      tokens (join separator (tokens text)) = tokens text ∧
      ∀ dimensions, hashed dimensions (join separator (tokens text)) = hashed dimensions text := by
  refine ⟨fun text => ?_, fun text separator wide plain => ?_⟩
  · have split := runs_split text
    have cut (run : List Char) (member : run ∈ runs text) := cut_pieces (split.word member).2
    refine ⟨split, ?_, segments_flatten text, fun run member => ?_⟩
    · exact List.flatMap_congr fun run member => (findAll_pieces (split.word member).2).symm
    · exact ⟨(cut run member).flatten, fun piece => (cut run member).isPiece⟩
  · have same := tokens_join_tokens wide plain text
    refine ⟨same, fun dimensions => ?_⟩
    rw [hashed, hashed, embedded, embedded, same]

theorem tokens_normal_of_acronym :
    tokens "XMLHttpRequest of user_id2" = ["xml", "http", "request", "user", "id", "2"] ∧
      tokens "xml, http, request, user, id, 2" = tokens "XMLHttpRequest of user_id2" := by
  have found : tokens "XMLHttpRequest of user_id2" =
      ["xml", "http", "request", "user", "id", "2"] := by decide +kernel
  have plain := plain_of_all (by decide : ", ".toList.all (!isTokenChar ·) = true)
  have joined := (tokens_normal.2 "XMLHttpRequest of user_id2" ", " (by decide) plain).1
  rw [found] at joined ⊢
  exact ⟨rfl, joined⟩

end CodeAtlas.Embedding
