import UmaGrant.GrantError
import UmaGrant.Json.Printer
/-! # Answers of the token endpoint

A request that succeeds is answered with an access token. Every error has one HTTP answer: a client
that may go on is told what to push, a denial says nothing more, and the details of a fault of the
server stay with the server.
-/

namespace UmaGrant

structure TokenResponse where
  accessToken : String
  tokenType : String
  /-- The identifier by which another server may ask for access to a source. -/
  derivationResourceId : Option String
deriving DecidableEq, Repr

namespace TokenResponse

def toJson (response : TokenResponse) : Json :=
  .ofMembers <|
    [("access_token", .string response.accessToken), ("token_type", .string response.tokenType)] ++
      optionalMember "derivation_resource_id" (response.derivationResourceId.map .string)

def fields : Fields TokenResponse :=
  Fields.pure TokenResponse.mk
    |>.apply (.required "access_token" Shape.string)
    |>.apply (.required "token_type" Shape.string)
    |>.apply (.optional "derivation_resource_id" Shape.string)

def shape : Shape TokenResponse := fields.read .json "NegotiationResponse"

end TokenResponse

/-- An HTTP answer. Header names are in lower case and ascending. -/
structure HttpAnswer where
  status : Nat
  headers : List (String × String)
  /-- The content, if there is any. -/
  body : Option Json
deriving Repr

namespace HttpAnswer

/-- An answer with JSON content and other headers that come later in the alphabet. -/
def ofJson (status : Nat) (others : List (String × String)) (body : Json) : HttpAnswer :=
  ⟨status, ("content-type", "application/json") :: others, some body⟩

def toJson (answer : HttpAnswer) : Json :=
  .ofMembers
    [("status", .nat answer.status),
      ("headers", .array (answer.headers.map fun header => .strings [header.1, header.2])),
      ("body", .orNull answer.body)]

end HttpAnswer

def TokenResponse.toHttp (response : TokenResponse) : HttpAnswer := .ofJson 200 [] response.toJson

namespace GrantError

def status : GrantError → Nat
  | needInfo _ _ | requestDenied => 403
  | invalidRequest _ | invalidTicket _ => 400
  | invalidToken _ => 401
  | verification _ | storage _ | configuration _ | internal _ => 500

/-- What a client is told about a fault of the server. -/
def serverFault : String := "The authorization server could not process the request."

/-- What a client is told about an error. -/
def description (error : GrantError) : String :=
  if error.isServerError then serverFault else error.message

/-- A text with a backslash in front of every double quote. -/
def escapeQuotes (text : String) : String :=
  String.ofList (text.toList.flatMap fun char => if char = '"' then ['\\', '"'] else [char])

/-- Whether a text may be the value of a header. -/
def isHeaderText (text : String) : Bool :=
  text.toList.all fun char => (0x20 ≤ char.toNat && char.toNat ≠ 0x7F) || char = '\t'

/-- The challenge that tells a client what was wrong with its token. -/
def challenge (error : GrantError) : String :=
  "Bearer error=\"" ++ error.code ++ "\", error_description=\"" ++
    escapeQuotes error.description ++ "\""

/-- The headers of the answer to an error, apart from those about its content. -/
def challengeHeaders (error : GrantError) : List (String × String) :=
  if error.status = 401 ∧ isHeaderText error.challenge then
    [("www-authenticate", error.challenge)]
  else []

def toHttp (error : GrantError) : HttpAnswer :=
  match error with
  | needInfo ticket required =>
    .ofJson error.status []
      (.ofMembers [("ticket", .string ticket), ("required_claims", required.toJson)])
  | requestDenied => ⟨error.status, [], none⟩
  | other =>
    .ofJson other.status other.challengeHeaders
      (.ofMembers
        [("error", .string other.code), ("error_description", .string other.description)])

end GrantError

end UmaGrant
