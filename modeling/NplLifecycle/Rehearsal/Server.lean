import NplLifecycle.Session.Basic
import NplLifecycle.Server.Practice

/-!
# Servers of a rehearsal

A scripted server does what its script says: for the name of each message that arrives it has a
list of actions, which it carries out in order before it looks at the next message.  What it sends
can be read by the client at once, in pieces if the script wants that.  A practice server, or a
program that sends everything back, can stand in for it.
-/

namespace NplLifecycle.Rehearsal

inductive Action where
  /-- Answers the message at hand with a result. -/
  | reply (result : Json)
  /-- Answers the message at hand with an error. -/
  | refuse (error : Json)
  /-- Sends a message. -/
  | send (message : Json)
  /-- Sends a frame around any text. -/
  | body (text : String)
  /-- Sends bytes as they are. -/
  | raw (bytes : List UInt8)
  /-- Waits, in milliseconds. -/
  | pause (time : Nat)
  /-- Makes the client's next read fail. -/
  | failRead (cause : String)
  /-- Makes the client's writes fail from now on. -/
  | failWrites (cause : String)
  /-- Ends the stream and gives up the rest of the actions. -/
  | close
  deriving Inhabited

structure Script where
  /-- Why nobody can connect to it, if so. -/
  connectError : Option String
  /-- How many bytes the client reads at once, if that is limited. -/
  chunk : Option Nat
  /-- What is done about a message, by its method. -/
  reactions : List (String × List Action)
  deriving Inhabited

inductive Role where
  | scripted (script : Script)
  | practice (server : Practice.Server)
  /-- Sends back whatever it gets. -/
  | echo

inductive Delivery where
  | message (content : Json)
  /-- The client gave up its side of the connection. -/
  | hangUp

structure Server where
  connection : ConnectionId
  role : Role
  /-- What reached the server and was not looked at yet. -/
  inbox : List Delivery
  /-- What the client can read. -/
  outbox : List Session.Arrival
  /-- Why the client's writes fail, if they do. -/
  writeFault : Option String
  isOpen : Bool
  /-- The identifier of the message at hand. -/
  request : Json
  /-- What is still to be done about it. -/
  agenda : List Action
  /-- When the next action may begin. -/
  wake : Nat

namespace Script

def defaultWelcome : Json :=
  .obj [("capabilities", .obj []),
    ("serverInfo", .obj [("name", .str "fake-npl"), ("version", .str "1.0")])]

/-- What a server without a script for a method does: it grants every request, and closes at the
end of the session. -/
def defaultReaction (method : String) (isRequest : Bool) : List Action :=
  if isRequest then
    [.reply (if method = "initialize" then defaultWelcome else .null)]
  else if method = "exit" then [.close]
  else []

/-- What a server does about a message; about a response it does nothing. -/
def reaction (script : Script) (content : Json) : List Action :=
  match (content.get? "method").bind Json.str? with
  | none => []
  | some method =>
    (script.reactions.lookup method).getD
      (defaultReaction method (content.get? "id").isSome)

end Script

namespace Server

def create (connection : ConnectionId) (role : Role) : Server where
  connection := connection
  role := role
  inbox := []
  outbox := []
  writeFault := none
  isOpen := true
  request := .null
  agenda := []
  wake := 0

def pieces (size : Nat) (bytes : List UInt8) : List (List UInt8) :=
  if _h : size = 0 ∨ bytes.length ≤ size then [bytes]
  else bytes.take size :: pieces size (bytes.drop size)
termination_by bytes.length
decreasing_by
  simp only [List.length_drop]
  omega

/-- How many bytes the client reads at once; zero for any number. -/
def chunk (server : Server) : Nat :=
  match server.role with
  | .scripted script => script.chunk.getD 0
  | .practice _ | .echo => 0

def deliver (server : Server) (bytes : List UInt8) : Server :=
  if server.isOpen && ! bytes.isEmpty then
    { server with outbox := server.outbox ++
        (pieces server.chunk bytes).map .bytes }
  else server

def sendJson (server : Server) (message : Json) : Server :=
  server.deliver (Frame.encode message.compact)

def response (request : Json) (field : String) (value : Json) : Json :=
  .ofMembers [("jsonrpc", .str protocolVersion), ("id", request), (field, value)]

def close (server : Server) : Server :=
  if server.isOpen then
    { server with
      isOpen := false
      writeFault := some "server gone"
      outbox := server.outbox ++ [.finish]
      agenda := []
      inbox := [] }
  else { server with agenda := [], inbox := [] }

def act (now : Nat) (request : Json) (server : Server) : Action → Server
  | .reply result => server.sendJson (response request "result" result)
  | .refuse error => server.sendJson (response request "error" error)
  | .send message => server.sendJson message
  | .body text => server.deliver (Frame.encode text)
  | .raw bytes => server.deliver bytes
  | .pause time => { server with wake := now + time }
  | .failRead cause =>
    if server.isOpen then { server with outbox := server.outbox ++ [.failure cause] } else server
  | .failWrites cause =>
    if server.isOpen then { server with writeFault := some cause } else server
  | .close => server.close

def handle (server : Server) (content : Json) : Server :=
  match server.role with
  | .scripted script =>
    { server with
      request := (content.get? "id").getD .null
      agenda := script.reaction content }
  | .echo => server.sendJson content
  | .practice practice =>
    let next := practice.feed (Frame.encode content.compact)
    let fresh := (next.sent.drop practice.sent.length).flatMap Frame.encode
    let server := { server with role := .practice next }.deliver fresh
    if next.status = .running then server else server.close

/-- Advances a server: it carries out the next action, or looks at what reached it.  Gives the
message that it looked at, if any; nothing while it waits. -/
def step (now : Nat) (server : Server) : Option (Server × Option Json) :=
  match server.agenda, server.inbox with
  | action :: rest, _ =>
    if now < server.wake then none
    else some ({ server with agenda := rest }.act now server.request action, none)
  | [], .message content :: rest =>
    if now < server.wake then none
    else some ({ server with inbox := rest }.handle content, some content)
  | [], .hangUp :: _ => if now < server.wake then none else some (server.close, none)
  | [], [] => none

def deadline? (now : Nat) (server : Server) : Option Nat :=
  if now < server.wake then some server.wake else none

def taken (server : Server) : Server :=
  { server with outbox := server.outbox.tail }

/-- Gives a server a message, or word that the client is gone. -/
def receive (server : Server) (delivery : Delivery) : Server :=
  if server.isOpen then { server with inbox := server.inbox ++ [delivery] } else server

end Server

end NplLifecycle.Rehearsal
