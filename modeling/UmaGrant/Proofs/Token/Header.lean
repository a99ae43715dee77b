import UmaGrant.Proofs.Json.Reading
import UmaGrant.Token.Signed
/-! # Headers of signed tokens can be read

The header under which a key signs is read back member by member: it names the algorithm of the key and
the key itself.
-/

namespace UmaGrant.JoseHeader

open JsonText (stringRest_escaped quoted_append readBytes_encode readAll_eq_ok)
open Json (quoted compact compactMembers)

variable {header grown : Draft} {name : String} {fuel : Nat} {chars rest : List Char}

/-! ## Values of members -/

private theorem optionalText_quoted (text : String) (rest : List Char) :
    optionalText (quoted text ++ rest) = .ok (some text, rest) := by
  rw [quoted_append]
  change (JsonText.stringRest _ >>= _) = _
  rw [stringRest_escaped]
  rfl

private theorem algorithmName_quoted {text : String} {algorithm : HeaderAlgorithm}
    (named : Shape.variantOf HeaderAlgorithm.names text = .ok algorithm) (rest : List Char) :
    algorithmName (quoted text ++ rest) = .ok (algorithm, rest) := by
  rw [quoted_append]
  have unblanked : JsonText.skipBlanks ('"' :: (text.toList.flatMap Json.escapeChar ++ '"' :: rest)) =
      '"' :: (text.toList.flatMap Json.escapeChar ++ '"' :: rest) := rfl
  simp only [algorithmName, unblanked, stringRest_escaped, bind, Except.bind, named]

private theorem memberValue_algorithm {algorithm : SigningAlgorithm} (rest : List Char) :
    memberValue header "alg" (quoted algorithm.name ++ rest) =
      .ok ({ header with
        algorithm := some (SignedTokens.headerAlgorithm algorithm)
        seen := "alg" :: header.seen }, rest) := by
  have named : Shape.variantOf HeaderAlgorithm.names algorithm.name =
      .ok (SignedTokens.headerAlgorithm algorithm) := by
    cases algorithm <;> rfl
  unfold memberValue
  simp only [if_true, algorithmName_quoted named]
  rfl

private theorem memberValue_type (text : String) (rest : List Char) :
    memberValue header "typ" (quoted text ++ rest) =
      .ok ({ header with seen := "typ" :: header.seen }, rest) := by
  unfold memberValue
  rw [if_neg (by decide), if_pos (by decide), optionalText_quoted]
  rfl

private theorem memberValue_keyId (text : String) (rest : List Char) :
    memberValue header "kid" (quoted text ++ rest) =
      .ok ({ header with keyId := some text, seen := "kid" :: header.seen }, rest) := by
  unfold memberValue
  rw [if_neg (by decide), if_pos (by decide), optionalText_quoted]
  rfl

/-! ## Members -/

/-- A member that was not seen before is read, and then the next one. -/
private theorem members_next {next : String} (new : header.seen.contains name = false)
    (read : memberValue header name chars = .ok (grown, ',' :: (quoted next ++ rest))) :
    members header (fuel + 1) (quoted name ++ ':' :: chars) =
      members grown fuel (quoted next ++ rest) := by
  rw [quoted_append next] at read ⊢
  rw [quoted_append, members]
  dsimp only
  rw [stringRest_escaped]
  change (if header.seen.contains name = true then _ else memberValue header name chars >>= _) = _
  rw [new, read]
  rfl

/-- The last member is read, and the header is complete. -/
private theorem members_last (new : header.seen.contains name = false)
    (read : memberValue header name chars = .ok (grown, '\x7d' :: rest)) :
    members header (fuel + 1) (quoted name ++ ':' :: chars) = finish grown rest := by
  rw [quoted_append, members]
  dsimp only
  rw [stringRest_escaped]
  change (if header.seen.contains name = true then _ else memberValue header name chars >>= _) = _
  rw [new, read]
  rfl

/-! ## Headers -/

private theorem compact_header (key : SigningKey) :
    compact (.object (SignedTokens.headerMembers key)) =
      '\x7b' :: (quoted "typ" ++ ':' :: (quoted "JWT" ++ ',' ::
        (quoted "alg" ++ ':' :: (quoted key.algorithm.name ++ ',' ::
          (quoted "kid" ++ ':' :: (quoted key.id ++ ['\x7d'])))))) := by
  simp [SignedTokens.headerMembers, compact, compactMembers]

private theorem reader_brace (name : String) (rest : List Char) :
    reader ('\x7b' :: (quoted name ++ rest)) =
      members ⟨none, none, [], none⟩ ((quoted name ++ rest).length + 1) (quoted name ++ rest) := by
  rw [quoted_append]
  rfl

/-- The header under which a key signs names its algorithm and the key. -/
theorem parse_header (key : SigningKey) :
    parse (Utf8.encode (compact (.object (SignedTokens.headerMembers key)))) =
      .ok ⟨SignedTokens.headerAlgorithm key.algorithm, some key.id⟩ := by
  rw [parse, readBytes_encode]
  refine readAll_eq_ok ?_
  rw [compact_header, reader_brace]
  -- Three members need three units of fuel, and the text is longer than that.
  obtain ⟨fuel, enough⟩ : ∃ fuel, (quoted "typ" ++ ':' :: (quoted "JWT" ++ ',' ::
      (quoted "alg" ++ ':' :: (quoted key.algorithm.name ++ ',' ::
        (quoted "kid" ++ ':' :: (quoted key.id ++ ['\x7d'])))))).length = fuel + 2 := by
    refine Nat.exists_eq_add_of_le' ?_
    simp only [List.length_append, List.length_cons]
    omega
  rw [enough, members_next rfl (memberValue_type "JWT" _),
    members_next rfl (memberValue_algorithm _), members_last rfl (memberValue_keyId key.id _)]
  rfl

end UmaGrant.JoseHeader
