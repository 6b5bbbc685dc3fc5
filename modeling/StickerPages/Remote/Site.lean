import StickerPages.Catalog.Reader
import StickerPages.Remote.Address

/-!
# Asking a server

A site stands for everything that can be reached by a request. It holds, for every address, the
replies that are still to come: a request takes the first of them, and the last one is given again
and again. An address that nobody ever set up is answered with "not found". The site also keeps the
addresses that were asked for, in order.

A request succeeds when the server answers with a status from 200 to 299; `Site.get` hands out the
body then, and a `Trouble` otherwise.
-/

namespace StickerPages.Remote

/-- What comes back from a request. -/
inductive Reply where
  | answer (status : Nat) (body : String)
  /-- The connection fails. -/
  | broken
  /-- The user breaks off while waiting. -/
  | brokenOff
deriving DecidableEq, Repr

/-- Why nothing could be fetched or used. -/
inductive Trouble where
  /-- What was given as an address is none. -/
  | noAddress
  | noConnection
  | badStatus (status : Nat)
  | notJson
  /-- A value of this kind stands where a map is needed. -/
  | notMap (kind : String)
  /-- A value of this kind stands where a text is needed. -/
  | notText (kind : String)
  | badCatalog (fault : Catalog.Fault)
  /-- There are no plugin settings. -/
  | noSettings
  /-- The user broke off. -/
  | brokenOff

/-- The trouble in words. -/
def Trouble.message : Trouble → String
  | .noAddress => "網址無效"
  | .noConnection => "無法連線"
  | .badStatus status => "HTTP 狀態 " ++ toString status
  | .notJson => "內容不是 JSON"
  | .notMap kind => "需要物件，收到 " ++ kind
  | .notText kind => "需要字串，收到 " ++ kind
  | .badCatalog fault => fault.message
  | .noSettings => "沒有插件配置"
  | .brokenOff => "已中斷"

/-- The servers in reach. -/
structure Site where
  /-- Where addresses without a server lead. -/
  base : String
  routes : List (String × List Reply) := []
  asked : List String := []
  /-- Whoever asks has opened the connections, and so will close them. -/
  owned : Bool := true
  /-- The connections are closed. -/
  closed : Bool := false
deriving Repr

namespace Site

/-- Sets up the replies of an address. -/
def setRoute (s : Site) (address : String) (replies : List Reply) : Site :=
  { s with routes := Pairs.put s.routes address replies }

/-- The next reply of an address, and the replies that remain. -/
def next : List Reply → Reply × List Reply
  | [] => (.answer 404 "", [])
  | [r] => (r, [r])
  | r :: rs => (r, rs)

/-- Asks for a full address. -/
def ask (s : Site) (address : String) : Site × Reply :=
  match s.routes.lookup address with
  | none => ({ s with asked := s.asked ++ [address] }, .answer 404 "")
  | some replies =>
    let (reply, rest) := next replies
    ({ s with asked := s.asked ++ [address], routes := Pairs.put s.routes address rest }, reply)

/-- The body that a reply brings. -/
def bodyOf : Reply → Except Trouble String
  | .answer status body =>
    if 200 ≤ status && status ≤ 299 then .ok body else .error (.badStatus status)
  | .broken => .error .noConnection
  | .brokenOff => .error .brokenOff

/-- The full address that a setting stands for. -/
def resolve (s : Site) (address : Value) : Except Trouble String :=
  match address with
  | .scalar (.text t) =>
    match resolve? s.base t with
    | some full => .ok full
    | none => .error .noAddress
  | _ => .error .noAddress

/-- Fetches what lies at an address. -/
def get (s : Site) (address : Value) : Site × Except Trouble String :=
  match s.resolve address with
  | .error t => (s, .error t)
  | .ok full =>
    let (s, reply) := s.ask full
    (s, bodyOf reply)

/-- Takes leave of the servers; connections that somebody else opened stay open. -/
def leave (s : Site) : Site := { s with closed := s.closed || s.owned }

end Site

end StickerPages.Remote
