import NplLifecycle.Proofs.Server.Front
import NplLifecycle.Proofs.Server.Incoming

/-!
# Conversations with the practice server

The practice server answers a stream of messages one by one until a message ends the conversation,
and it does not matter how the stream is cut: what it has understood and said depends on the bytes
alone, and only the bytes that it never reads are kept or lost with the cut.
-/

namespace NplLifecycle.Practice

open Json (EveryItem EveryMember Holdable)

section Draining

variable {server : Server} {buffer rest : List UInt8} {body : String}

theorem drain_of_waiting (server : Server) (h : front buffer = .waiting) :
    server.drain buffer = { server with buffer := buffer } := by
  rw [Server.drain]
  split
  · rfl
  · rename_i heq
    exact absurd (h.symm.trans heq) (by simp)
  · rename_i heq
    exact absurd (h.symm.trans heq) (by simp)

theorem drain_of_overflow (server : Server) (h : front buffer = .overflow) :
    server.drain buffer = { server with buffer := buffer, status := .crashed } := by
  rw [Server.drain]
  split
  · rename_i heq
    exact absurd (h.symm.trans heq) (by simp)
  · rfl
  · rename_i heq
    exact absurd (h.symm.trans heq) (by simp)

theorem drain_of_frame (server : Server) (h : front buffer = .frame body rest) :
    server.drain buffer = if (server.handleBody body).status = .running
      then (server.handleBody body).drain rest
      else { server.handleBody body with buffer := rest } := by
  rw [Server.drain]
  split
  · rename_i heq
    exact absurd (h.symm.trans heq) (by simp)
  · rename_i heq
    exact absurd (h.symm.trans heq) (by simp)
  · rename_i found behind heq
    obtain ⟨rfl, rfl⟩ := Front.frame.inj (h.symm.trans heq)
    rfl

theorem handleBody_buffer (server : Server) (other : List UInt8) (body : String) :
    Server.handleBody { server with buffer := other } body =
      { server.handleBody body with buffer := other } := by
  unfold Server.handleBody
  cases Incoming.ofText? body <;> rfl

/-- Draining does not ask what was left in the server before. -/
theorem drain_buffer (server : Server) (other buffer : List UInt8) :
    Server.drain { server with buffer := other } buffer = server.drain buffer := by
  fun_induction Server.drain server buffer with
  | case1 server buffer h => exact drain_of_waiting _ h
  | case2 server buffer h => exact drain_of_overflow _ h
  | case3 server buffer body rest h next hrunning ih =>
      rw [drain_of_frame _ h, handleBody_buffer, if_pos hrunning]
      exact ih
  | case4 server buffer body rest h next hstopped =>
      rw [drain_of_frame _ h, handleBody_buffer, if_neg hstopped]

/-- A running server that has drained what it can read stays with nothing to read. -/
theorem front_drain (hrunning : (server.drain buffer).status = .running) :
    front (server.drain buffer).buffer = .waiting := by
  fun_induction Server.drain server buffer with
  | case1 server buffer h => exact h
  | case2 server buffer h => exact absurd hrunning (by simp)
  | case3 server buffer body rest h next hnext ih => exact ih hrunning
  | case4 server buffer body rest h next hstopped => exact absurd hrunning hstopped

/-- Bytes behind a buffer are drained where the buffer was left; a server that has stopped does not
read them. -/
theorem drain_append (hrunning : server.status = .running) (buffer more : List UInt8) :
    server.drain (buffer ++ more) = if (server.drain buffer).status = .running
      then (server.drain buffer).drain ((server.drain buffer).buffer ++ more)
      else { server.drain buffer with buffer := (server.drain buffer).buffer ++ more } := by
  fun_induction Server.drain server buffer with
  | case1 server buffer h =>
      rw [if_pos hrunning]
      exact (drain_buffer server buffer (buffer ++ more)).symm
  | case2 server buffer h =>
      rw [drain_of_overflow _ (front_append_of_overflow h more), if_neg (by simp)]
  | case3 server buffer body rest h next hnext ih =>
      rw [drain_of_frame _ (front_append h more), if_pos hnext]
      exact ih hnext
  | case4 server buffer body rest h next hstopped =>
      rw [drain_of_frame _ (front_append h more), if_neg hstopped, if_neg hstopped]

/-- What a server has understood and said, without the bytes that it has not read. -/
def Server.told (server : Server) : Server :=
  { server with buffer := [] }

theorem foldl_feed_of_stopped (h : server.status ≠ .running) (chunks : List (List UInt8)) :
    chunks.foldl Server.feed server = server := by
  induction chunks with
  | nil => rfl
  | cons chunk chunks ih => rw [List.foldl_cons, Server.feed, if_neg h, ih]

/-- It does not matter how a stream is cut. -/
theorem told_foldl_feed (hrunning : server.status = .running)
    (hsettled : front server.buffer = .waiting) (chunks : List (List UInt8)) :
    (chunks.foldl Server.feed server).told =
      (server.drain (server.buffer ++ chunks.flatten)).told := by
  induction chunks generalizing server with
  | nil => rw [List.foldl_nil, List.flatten_nil, List.append_nil, drain_of_waiting _ hsettled]
  | cons chunk chunks ih =>
      rw [List.foldl_cons, Server.feed, if_pos hrunning, List.flatten_cons, ← List.append_assoc,
        drain_append hrunning (server.buffer ++ chunk) chunks.flatten]
      by_cases hnext : (server.drain (server.buffer ++ chunk)).status = .running
      · rw [if_pos hnext]
        exact ih hnext (front_drain hnext)
      · rw [if_neg hnext, foldl_feed_of_stopped hnext]
        rfl

end Draining

section Conversing

variable {server : Server} {message : Message}

def spoken (options : Options) : Message → List String
  | .request request => [(respond options request.id.toJson request.method).compact]
  | .notification notification =>
    if notification.method = "initialized" then
      (if options.malformed then ["\x7bnot json"] else []) ++
        (if options.requestFolders then [folderRequest.compact] else [])
    else []
  | .response _ => []

def ends (options : Options) : Message → Bool
  | .notification notification => notification.method == "exit" ||
    (notification.method == "initialized" && options.exitAfterInitialized)
  | .request _ | .response _ => false

/-- The messages up to the first one that ends the conversation, and that one. -/
def heeded (options : Options) : List Message → List Message
  | [] => []
  | message :: rest => message :: if ends options message then [] else heeded options rest

/-- The bytes of messages, one frame behind the other. -/
def stream (messages : List Message) : List UInt8 :=
  messages.flatMap fun message => Frame.encode message.toJson.compact

/-- What is left of a server that has drained a stream of messages. -/
def Server.after (server : Server) (messages : List Message) : Server :=
  { server with
    buffer := []
    sent := server.sent ++ (heeded server.options messages).flatMap (spoken server.options)
    seen := server.seen ++ (heeded server.options messages).map hear
    status := if messages.any (ends server.options) then .exited else .running }

end Conversing

section Practice

end Practice

end NplLifecycle.Practice
