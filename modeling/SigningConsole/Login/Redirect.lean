import SigningConsole.Url.Query
/-!
What the identity provider sends back: a URL that carries an authorization code and a state, and
what is left of it when both are taken out.
-/

namespace SigningConsole

/-- An authorization code with the state beside it. -/
structure RedirectCode where
  code : String
  state : Option String
deriving DecidableEq, Repr

namespace Url

/-- The parameter of a redirect that holds the code. -/
def codeKey : String := "code"

/-- The parameter of a redirect that holds the state. -/
def stateKey : String := "state"

/-- Whether the key is one of a redirect's parameters. -/
def isRedirectKey (key : String) : Bool := key == codeKey || key == stateKey

/-- The value of the first pair with a key, if it is not empty. -/
def firstValue? (key : String) (pairs : List (String × String)) : Option String :=
  (pairs.lookup key).filter fun value => !value.isEmpty

/-- The authorization code that a redirect carries. -/
def redirectCode? (u : Url) : Option RedirectCode :=
  (firstValue? codeKey u.queryPairs).map fun code =>
    { code, state := firstValue? stateKey u.queryPairs }

/-- Whether the query has a code or a state. -/
def isRedirect (u : Url) : Bool := u.queryPairs.any fun (k, _) => isRedirectKey k

/-- Whether a piece of a query stays when code and state are taken out. -/
def staysInQuery (piece : List Char) : Bool := !piece.isEmpty && !isRedirectKey (pairOf piece).1

/-- The pieces of a query that stay, as they stand. -/
def strippedQuery (query : String) : Option String :=
  let kept := (queryPieces query).filter staysInQuery
  if kept.isEmpty then none else some (String.ofList (Text.joinAll ['&'] kept))

/-- The URL without code and state; one that has neither is left alone. -/
def withoutRedirect (u : Url) : Url :=
  if u.isRedirect then u.withQuery (strippedQuery (u.query.getD "")) else u

/-- The provider's logout page, told where to go afterwards. -/
def providerLogout (provider returnTo : Url) : Url :=
  provider.addPairs [("redirect_uri", returnTo.text)]

end Url

end SigningConsole
