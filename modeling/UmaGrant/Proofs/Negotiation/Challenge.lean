import UmaGrant.Negotiation.Response
import UmaGrant.Proofs.Json.Shapes
import UmaGrant.Token.Signed
/-! # What a challenge tells

A client reads a challenge as the name of a scheme and parameters, whose values stand between quotes. In
such a value a backslash stands for nothing but makes the next character stand for itself. The answer to
a bad token escapes the quotes of its description and leaves the backslashes as they are, so what is read
from the header is what stands in the content exactly if the description has no backslash.
-/

namespace UmaGrant

/-- A challenge as a client reads it. -/
structure Challenge where
  scheme : String
  parameters : List (String × String)
deriving DecidableEq, Repr

namespace Challenge

/-! ## Reading -/

/-- Where a reader is among parameters. -/
inductive Place where
  /-- In front of a name. -/
  | before
  | name (name : List Char)
  /-- Behind the sign between a name and its value. -/
  | sign (name : List Char)
  /-- Between the quotes of a value. -/
  | quoted (name value : List Char)
  /-- Behind a backslash between the quotes. -/
  | escaped (name value : List Char)
  /-- Behind a value. -/
  | after

/-- Whether a character may stand in a name. -/
def isNameChar (char : Char) : Bool := char.isAlphanum || "!#$%&'*+-.^_`|~".toList.contains char

/-- Whether a character may stand around a comma. -/
def isBlank (char : Char) : Bool := char = ' ' || char = '\t'

/-- Reads the rest of the parameters from a place among them on. -/
def read : Place → List Char → Option (List (String × String))
  | .before, char :: rest =>
    if isBlank char then read .before rest
    else if isNameChar char then read (.name [char]) rest
    else none
  | .name name, char :: rest =>
    if isNameChar char then read (.name (name ++ [char])) rest
    else if char = '=' then read (.sign name) rest
    else none
  | .sign name, char :: rest => if char = '"' then read (.quoted name []) rest else none
  | .quoted name value, char :: rest =>
    if char = '"' then
      (read .after rest).map fun more => (String.ofList name, String.ofList value) :: more
    else if char = '\\' then read (.escaped name value) rest
    else read (.quoted name (value ++ [char])) rest
  | .escaped name value, char :: rest => read (.quoted name (value ++ [char])) rest
  | .after, char :: rest =>
    if isBlank char then read .after rest else if char = ',' then read .before rest else none
  | .after, [] => some []
  | _, [] => none

/-- Reads the value of a header. -/
def ofHeader? (value : String) : Option Challenge :=
  match value.toList.takeWhile isNameChar, value.toList.dropWhile isNameChar with
  | first :: scheme, ' ' :: rest =>
    (read .before rest).map fun parameters => ⟨String.ofList (first :: scheme), parameters⟩
  | _, _ => none

/-! ## Texts of which only the quotes are escaped -/

/-- The characters of a text with a backslash in front of every quote. -/
def escapedQuotes (text : List Char) : List Char :=
  text.flatMap fun char => if char = '"' then ['\\', '"'] else [char]

theorem escapedQuotes_quote (rest : List Char) :
    escapedQuotes ('"' :: rest) = '\\' :: '"' :: escapedQuotes rest := rfl

theorem escapedQuotes_cons {char : Char} (plain : char ≠ '"') (rest : List Char) :
    escapedQuotes (char :: rest) = char :: escapedQuotes rest := by
  rw [escapedQuotes, List.flatMap_cons, if_neg plain]
  rfl

/-- What is read of a text of which only the quotes were escaped. Nothing can be read if the text ends
its value early or keeps it from ending. -/
def heard : List Char → Option (List Char)
  | [] => some []
  | char :: rest =>
    if char = '\\' then
      match rest with
      | [] => none
      | next :: more => if next = '"' then none else (heard more).map (next :: ·)
    else (heard rest).map (char :: ·)

private theorem heard_backslash {next : Char} (plain : next ≠ '"') (more : List Char) :
    heard ('\\' :: next :: more) = (heard more).map (next :: ·) := by
  rw [heard.eq_def]
  exact if_neg plain

private theorem heard_cons {char : Char} (plain : char ≠ '\\') (rest : List Char) :
    heard (char :: rest) = (heard rest).map (char :: ·) := by
  rw [heard.eq_def]
  exact if_neg plain

/-- Whether a reader is not inside a value. -/
def Place.IsOutside : Place → Prop
  | quoted _ _ | escaped _ _ => False
  | _ => True

/-- Outside a value no backslash can be read, and only a quote leads into one. -/
private theorem read_outside_cons {place : Place} (outside : place.IsOutside) {char : Char}
    (plain : char ≠ '"') (rest : List Char) :
    read place (char :: rest) = none ∨
      char ≠ '\\' ∧ ∃ next : Place, next.IsOutside ∧ read place (char :: rest) = read next rest := by
  have notBlank : isBlank char = true → char ≠ '\\' := by
    rintro blank rfl
    cases blank
  have notName : isNameChar char = true → char ≠ '\\' := by
    rintro name rfl
    revert name
    decide
  cases place with
  | quoted name value => exact outside.elim
  | escaped name value => exact outside.elim
  | before =>
    rw [read]
    by_cases blank : isBlank char = true
    · rw [if_pos blank]
      exact .inr ⟨notBlank blank, .before, trivial, rfl⟩
    · rw [if_neg blank]
      by_cases begins : isNameChar char = true
      · rw [if_pos begins]
        exact .inr ⟨notName begins, .name [char], trivial, rfl⟩
      · rw [if_neg begins]
        exact .inl rfl
  | name name =>
    rw [read]
    by_cases more : isNameChar char = true
    · rw [if_pos more]
      exact .inr ⟨notName more, .name (name ++ [char]), trivial, rfl⟩
    · rw [if_neg more]
      by_cases sign : char = '='
      · subst sign
        exact .inr ⟨by decide, .sign name, trivial, rfl⟩
      · rw [if_neg sign]
        exact .inl rfl
  | sign name =>
    rw [read, if_neg plain]
    exact .inl rfl
  | after =>
    rw [read]
    by_cases blank : isBlank char = true
    · rw [if_pos blank]
      exact .inr ⟨notBlank blank, .after, trivial, rfl⟩
    · rw [if_neg blank]
      by_cases comma : char = ','
      · subst comma
        exact .inr ⟨by decide, .before, trivial, rfl⟩
      · rw [if_neg comma]
        exact .inl rfl

/-- Behind a value that has ended early nothing can be read: each further quote has a backslash in front
of it, except for the last one, and a value that this one opens does not end. -/
private theorem read_outside {place : Place} (outside : place.IsOutside) (text : List Char) :
    read place (escapedQuotes text ++ ['"']) = none := by
  induction text generalizing place with
  | nil => cases place <;> first | rfl | exact outside.elim
  | cons char rest ih =>
    by_cases quote : char = '"'
    · subst quote
      rw [escapedQuotes_quote]
      rcases read_outside_cons outside (by decide : '\\' ≠ '"') _ with stuck | ⟨slash, _⟩
      · exact stuck
      · exact absurd rfl slash
    · rw [escapedQuotes_cons quote, List.cons_append]
      rcases read_outside_cons outside quote (escapedQuotes rest ++ ['"']) with
        stuck | ⟨_, next, still, same⟩
      · exact stuck
      · rw [same]
        exact ih still

/-- The last value of a challenge is what is heard of its text. -/
private theorem read_quoted (name value text : List Char) :
    read (.quoted name value) (escapedQuotes text ++ ['"']) =
      (heard text).map fun heard => [(String.ofList name, String.ofList (value ++ heard))] := by
  induction text using heard.induct generalizing value with
  | case1 =>
    rw [heard, Option.map_some, List.append_nil]
    rfl
  | case2 => rfl
  | case3 rest =>
    -- The backslash of the text takes the one that was put in front of the quote.
    have outside : Place.IsOutside .after := trivial
    have early := read_outside outside rest
    rw [escapedQuotes_cons (by decide), escapedQuotes_quote]
    change (read .after (escapedQuotes rest ++ ['"'])).map _ = _
    rw [early]
    rfl
  | case4 next more plain ih =>
    have last := ih (value ++ [next])
    simp only [List.append_assoc, List.singleton_append] at last
    rw [escapedQuotes_cons (by decide), escapedQuotes_cons plain, heard_backslash plain,
      Option.map_map]
    exact last
  | case5 char rest slash ih =>
    have last := ih (value ++ [char])
    simp only [List.append_assoc, List.singleton_append] at last
    rw [heard_cons slash, Option.map_map]
    by_cases quote : char = '"'
    · subst quote
      exact last
    · rw [escapedQuotes_cons quote, List.cons_append, read, if_neg quote, if_neg slash]
      exact last

/-- Nothing is heard in addition, and less is heard than a text with a backslash says. -/
private theorem length_heard {text other : List Char} (told : heard text = some other) :
    other.length ≤ text.length ∧ ('\\' ∈ text → other.length < text.length) := by
  induction text using heard.induct generalizing other with
  | case1 =>
    cases told
    exact ⟨Nat.le_refl _, nofun⟩
  | case2 => cases told
  | case3 rest => cases told
  | case4 next more plain ih =>
    rw [heard_backslash plain] at told
    obtain ⟨last, heardLast, rfl⟩ := Option.map_eq_some_iff.mp told
    have shorter := (ih heardLast).1
    simp only [List.length_cons]
    exact ⟨by omega, fun _ => by omega⟩
  | case5 char rest slash ih =>
    rw [heard_cons slash] at told
    obtain ⟨last, heardLast, rfl⟩ := Option.map_eq_some_iff.mp told
    obtain ⟨within, shorter⟩ := ih heardLast
    simp only [List.length_cons]
    refine ⟨by omega, fun member => ?_⟩
    have later := shorter (List.mem_of_ne_of_mem (Ne.symm slash) member)
    omega

/-- A text is heard as it is written exactly if it has no backslash. -/
theorem heard_eq_self_iff {text : List Char} : heard text = some text ↔ '\\' ∉ text := by
  constructor
  · intro told member
    exact absurd ((length_heard told).2 member) (Nat.lt_irrefl _)
  · intro plain
    induction text with
    | nil => rfl
    | cons char rest ih =>
      have first : char ≠ '\\' := fun same => plain (same ▸ List.mem_cons_self)
      rw [heard_cons first, ih fun member => plain (List.mem_cons_of_mem _ member)]
      rfl

end Challenge

/-! ## The challenge of a bad token -/

namespace GrantError

/-- What a client reads in the challenge of a bad token is what is heard of the description. -/
theorem ofHeader?_challenge (detail : String) :
    Challenge.ofHeader? (invalidToken detail).challenge =
      (Challenge.heard (invalidToken detail).description.toList).map fun heard =>
        ⟨"Bearer", [("error", (invalidToken detail).code),
          ("error_description", String.ofList heard)]⟩ := by
  have joined : ∀ scheme code between text ending : String,
      (scheme ++ code ++ between ++ escapeQuotes text ++ ending).toList =
        scheme.toList ++ (code.toList ++ (between.toList ++
          (Challenge.escapedQuotes text.toList ++ ending.toList))) := by
    intro scheme code between text ending
    simp only [escapeQuotes, Challenge.escapedQuotes, String.toList_append, String.toList_ofList,
      List.append_assoc]
  have written : (invalidToken detail).challenge.toList =
      "Bearer error=\"".toList ++ ("invalid_token".toList ++ ("\", error_description=\"".toList ++
        (Challenge.escapedQuotes (invalidToken detail).description.toList ++ ['"']))) :=
    joined _ _ _ _ _
  have scheme : ∀ tail, ("Bearer error=\"".toList ++ tail).takeWhile Challenge.isNameChar =
        "Bearer".toList ∧
      ("Bearer error=\"".toList ++ tail).dropWhile Challenge.isNameChar =
        ' ' :: ("error=\"".toList ++ tail) :=
    fun _ => ⟨rfl, rfl⟩
  have first : ∀ tail,
      Challenge.read .before ("error=\"".toList ++ ("invalid_token".toList ++
          ("\", error_description=\"".toList ++ tail))) =
        (Challenge.read (.quoted "error_description".toList []) tail).map
          fun more => ("error", "invalid_token") :: more := fun _ => rfl
  rw [Challenge.ofHeader?, written, (scheme _).1, (scheme _).2]
  change (Challenge.read .before _).map _ = _
  rw [first, Challenge.read_quoted, Option.map_map, Option.map_map]
  rfl

/-- The header of the answer to a bad token is read as what its content says exactly if the error has no
backslash. Whatever the error, nothing else is read than one error code and one description, which is
what is heard of the one in the content. -/
theorem challenge_tells (detail : String) {value : String}
    (challenged : ("www-authenticate", value) ∈ (invalidToken detail).toHttp.headers) :
    ∃ body error description, (invalidToken detail).toHttp.body = some body ∧
      body.member? "error" = some (.string error) ∧
      body.member? "error_description" = some (.string description) ∧
      (Challenge.ofHeader? value = (Challenge.heard description.toList).map fun heard =>
        ⟨"Bearer", [("error", error), ("error_description", String.ofList heard)]⟩) ∧
      (Challenge.ofHeader? value =
          some ⟨"Bearer", [("error", error), ("error_description", description)]⟩ ↔
        '\\' ∉ detail.toList) := by
  have same : value = (invalidToken detail).challenge := by
    change _ ∈ _ :: (invalidToken detail).challengeHeaders at challenged
    rw [challengeHeaders] at challenged
    split at challenged <;> simp_all
  have distinct : ([("error", Json.string (invalidToken detail).code),
      ("error_description", Json.string (invalidToken detail).description)].map (·.1)).Nodup := by
    change ["error", "error_description"].Nodup
    decide
  have found := Json.lookup_ofMembers distinct
  have read := ofHeader?_challenge detail
  refine ⟨_, _, _, rfl, found "error", found "error_description", same ▸ read, ?_⟩
  have plain : '\\' ∉ (invalidToken detail).description.toList ↔ '\\' ∉ detail.toList := by
    have spelled : (invalidToken detail).description.toList = "Invalid token: ".toList ++ detail.toList :=
      String.toList_append
    rw [spelled, List.mem_append, not_or]
    exact and_iff_right (by decide)
  rw [← plain, ← Challenge.heard_eq_self_iff, same, read, Option.map_eq_some_iff]
  constructor
  · rintro ⟨heard, told, same⟩
    obtain ⟨-, listed⟩ := Challenge.mk.inj same
    have second := (List.cons.inj (List.cons.inj listed).2).1
    have asWritten := congrArg String.toList (Prod.mk.inj second).2
    rw [String.toList_ofList] at asWritten
    rw [told, asWritten]
  · intro told
    exact ⟨_, told, by rw [String.ofList_toList]⟩

theorem challenge_tells_quoted :
    ∃ body error description, (invalidToken "no \"kid\"").toHttp.body = some body ∧
      body.member? "error" = some (.string error) ∧
      body.member? "error_description" = some (.string description) ∧
      (Challenge.ofHeader? "Bearer error=\"invalid_token\", error_description=\"Invalid token: no \\\"kid\\\"\"" =
        (Challenge.heard description.toList).map fun heard =>
          ⟨"Bearer", [("error", error), ("error_description", String.ofList heard)]⟩) ∧
      (Challenge.ofHeader? "Bearer error=\"invalid_token\", error_description=\"Invalid token: no \\\"kid\\\"\"" =
          some ⟨"Bearer", [("error", error), ("error_description", description)]⟩ ↔
        '\\' ∉ "no \"kid\"".toList) :=
  challenge_tells "no \"kid\"" (by decide)

/-- A description that ends in a backslash keeps its value from ending, a quote behind a backslash ends
it early, and any other character swallows the backslash in front of it. -/
theorem challenge_misread :
    ("www-authenticate", "Bearer error=\"invalid_token\", error_description=\"Invalid token: k\\\"") ∈
        (invalidToken "k\\").toHttp.headers ∧
      Challenge.ofHeader? (invalidToken "k\\").challenge = none ∧
      Challenge.ofHeader? (invalidToken "k\\\"").challenge = none ∧
      Challenge.ofHeader? (invalidToken "a\\b").challenge =
        some ⟨"Bearer", [("error", "invalid_token"), ("error_description", "Invalid token: ab")]⟩ := by
  decide

end GrantError

end UmaGrant
