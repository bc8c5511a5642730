/-
**Requests and what they meet.**

A request goes out over a link, which either loses it or brings a response.  A response announces
how long its body is, or the body comes in pieces and tells where it ends; either way the connection
may break off before that.  Only a complete response that reports no failure and is not larger than
what is read has a body to look at.

Main definitions:

* `MediaTree.Http.Request`, `MediaTree.Http.Response`, `MediaTree.Http.Reply`,
  `MediaTree.Http.Link` — what goes out, what comes back, and over what;
* `MediaTree.Http.Response.announced?`, `MediaTree.Http.Response.isShort`,
  `MediaTree.Http.Response.body` — what is received of a response;
* `MediaTree.Http.prepare` — the request for an address, if one can be made;
* `MediaTree.Http.receive` — the body behind a reply, or why there is none.
-/

import MediaTree.Catalog.Error
import MediaTree.Url.Parser

set_option autoImplicit false
set_option relaxedAutoImplicit false

namespace MediaTree.Http

/-- A request for a record. -/
structure Request where
  url : Url
  /-- Who asks. -/
  token : String
  /-- What is asked for. -/
  accept : String
deriving DecidableEq, Repr

/-- The verb of every request. -/
def Request.method (_ : Request) : String := "GET"

/-- How far the body of a response reaches. -/
inductive Extent where
  /-- As far as is announced. -/
  | announced (n : Nat)
  /-- In pieces up to an end that is told, or up to the end of the connection; the connection may break
  off instead. -/
  | told (ended : Bool)
deriving DecidableEq, Repr

/-- A response as far as it arrives. -/
structure Response where
  status : Nat
  extent : Extent
  /-- The octets that arrive behind the head of the response, the marks between pieces apart. -/
  octets : ByteArray

namespace Response

/-- The announced length of the body; a response that goes without one announces nothing. -/
def announced? (r : Response) : Option Nat :=
  if Status.hasBody r.status then
    match r.extent with
    | .announced n => some n
    | .told _ => none
  else some 0

/-- A body is cut short if fewer octets arrive than are announced, or if the connection breaks off
before the end is told. -/
def isShort (r : Response) : Bool :=
  Status.hasBody r.status &&
    match r.extent with
    | .announced n => r.octets.size < n
    | .told ended => !ended

/-- The body as far as it is received: what arrives behind it belongs to nothing. -/
def body (r : Response) : ByteArray :=
  if Status.hasBody r.status then
    match r.extent with
    | .announced n => r.octets.extract 0 n
    | .told _ => r.octets
  else .empty

end Response

/-- What a request meets. -/
inductive Reply where
  /-- Nothing comes back that is a response.  A head that announces more than any number of 64 bits
  tells, or one of the two greatest of them, is none either. -/
  | lost
  | response (r : Response)

/-- Where requests go: each meets a reply. -/
abbrev Link := Request → Reply

/-- A link on which every request is lost. -/
def Link.down : Link := fun _ => .lost

/-! ### Sending -/

/-- The octets that may stand in a header: no control characters but the tab. -/
def isHeaderOctet (b : UInt8) : Bool := (0x20 ≤ b.toNat && b.toNat ≠ 0x7f) || b.toNat == 0x09

/-- Whether a text may be the value of a header. -/
def isHeaderText (s : String) : Bool := (Text.octets s).all isHeaderOctet

/-- The greatest length of an address that is sent. -/
def maxAddress : Nat := 65534

/-- An address that can be sent: of one of the two schemes that are spoken, not too long, and with
no quote or brace in its host. -/
def isSendable (u : Url) : Bool :=
  (u.scheme == "http" || u.scheme == "https")
    && !(u.host.getD "").toList.any ['"', '\x60', '\x7b', '\x7d'].contains
    && u.toString.utf8ByteSize ≤ maxAddress

/-- An address that cannot be asked. -/
def unaskable (u : Url) : CatalogError := .network ("builder error for url (" ++ u.toString ++ ")")

/-- The request for an address with pairs behind it.  The token is looked at first, then the
address: it must be one, name somebody, and be one that can be sent. -/
def prepare (token address : String) (pairs : Option (List (String × String))) :
    Except CatalogError Request :=
  if !isHeaderText token then .error (.invalidHeader "failed to parse header value")
  else
    match Url.parse address with
    | .error _ => .error (.network "builder error")
    | .ok u =>
      if u.host.getD "" = "" then .error (unaskable u)
      else
        let u := match pairs with
          | some ps => u.withPairs ps
          | none => u
        if isSendable u then .ok ⟨u, token, "application/json"⟩ else .error (unaskable u)

/-! ### Receiving -/

/-- A request that no response comes back to; what is only sent ahead of one does not count. -/
def unsent (r : Request) : CatalogError :=
  .network ("error sending request for url (" ++ r.url.toString ++ ")")

/-- The body behind a reply, or the first reason why there is none.  For a single item, whose id is
given, the status *not found* names the item. -/
def receive (item : Option String) (r : Request) : Reply → Except CatalogError ByteArray
  | .lost => .error (unsent r)
  | .response resp =>
    if !Status.isFinal resp.status then .error (unsent r)
    else
      match item, resp.status == Status.notFound with
      | some id, true => .error (.notFound id)
      | _, _ =>
        if Status.isFailure resp.status then .error (.http resp.status r.url.toString)
        else if maxResponseSize < resp.announced?.getD 0 then
          .error (.tooLarge (resp.announced?.getD 0))
        else if resp.isShort then
          .error (.network ("error decoding response body for url (" ++ r.url.toString ++ ")"))
        else if maxResponseSize < resp.body.size then .error (.tooLarge resp.body.size)
        else .ok resp.body

end MediaTree.Http
