import SocketBridge.Bridge.World
import SocketBridge.Proofs.Echo.Outbox
import SocketBridge.Proofs.Echo.Run
import SocketBridge.Proofs.Stream.Run
import SocketBridge.Proofs.Stream.Writer

/-!
# How an open connection is served

The read of an open connection runs, or its last record waits, or that was handled. Its write is
either not there, or in line, or told by a record that waits. Every turn of the socket and every
handled record leads from one of these states to another.
-/

namespace SocketBridge

/-- Whether more records of the read may follow. -/
def ReadRecord.isData {α : Type} (q : ReadRecord α) : Bool := q.error.isNone && q.payload.isSome

namespace ReadLoop

variable {r : ReadLoop (List UInt8)}

/-- What may come of a poll when bytes are passed on as they are. -/
inductive Passes (r : ReadLoop (List UInt8)) (ready : Option (Except String (List UInt8))) :
    Option (ReadLoop (List UInt8)) → Option (ReadRecord (List UInt8)) → Prop
  | waits (pending : ready = none) : Passes r ready (some r) none
  | closes (q : ReadRecord (List UInt8)) (owner : q.schedulee = r.task.schedulee)
      (last : q.isData = false) : Passes r ready none (some q)
  | passes (next : ReadLoop (List UInt8)) (q : ReadRecord (List UInt8))
      (owner : q.schedulee = r.task.schedulee) (data : q.isData = true)
      (task : next.task = r.task.advance) (decoder : next.decoder = r.decoder) :
    Passes r ready (some next) (some q)

/-- Bytes are used up as they come, so a poll that the host answers always makes a record. -/
theorem turn_passes (decoder : r.decoder = .bytes) (answer : Poll (List UInt8) String)
    (live : answer.cancels = false) :
    r.Passes answer.ready (r.turn false answer).next (r.turn false answer).record := by
  have turns := r.turn_does false answer
  generalize r.turn false answer = turn at turns
  cases turns with
  | waits pending =>
    refine .waits ?_
    simpa [race] using pending
  | stops stopped =>
    obtain ⟨cancels, ready⟩ := answer
    obtain rfl := live
    rcases ready with _ | _ | _ <;> cases stopped
  | closes q last =>
    rcases last with rfl | ⟨text, rfl⟩
    · exact .closes _ rfl rfl
    · exact .closes _ rfl rfl
  | receives bytes came nonempty turn outcome =>
    have shown : (r.decode (bytes.take r.buffer.free)).answer =
        .ok ((r.decode (bytes.take r.buffer.free)).filled,
          (r.decode (bytes.take r.buffer.free)).filled.length) := by
      simp only [decode, decoder, Decoder.bytes]
    have some_come := List.length_pos_iff.mpr nonempty
    have used : (r.decode (bytes.take r.buffer.free)).consumed ≠ 0 := by
      simp only [DecodeCall.consumed, shown, length_decode, ReadBuffer.put, List.length_take]
      simp only [List.length_take] at some_come
      omega
    cases outcome with
    | rejects e answer => cases shown.symm.trans answer
    | overflows pair answer idle => exact absurd idle used
    | keeps pair answer idle => exact absurd idle used
    | moves payload emitted progress => exact .passes _ _ rfl rfl rfl rfl

end ReadLoop

/-- The reading half of a connection, given its read, whether the end of the stream was handled, and
the records that wait. -/
inductive ReadSide (token : Nat) :
    Option (ReadLoop (List UInt8)) → Bool → List (ReadRecord (List UInt8)) → Prop
  | runs (r : ReadLoop (List UInt8)) (told : List (ReadRecord (List UInt8)))
      (owner : r.task.schedulee = token) (queue : r.task.queue = 0) (decoder : r.decoder = .bytes)
      (data : ∀ q ∈ told, q.isData = true) : ReadSide token (some r) false told
  | ends (told front : List (ReadRecord (List UInt8))) (last : ReadRecord (List UInt8))
      (split : told = front ++ [last]) (data : ∀ q ∈ front, q.isData = true)
      (terminal : last.isData = false) : ReadSide token none false told
  | finished : ReadSide token none true []

/-- The writing half of a connection, given the write in flight, the line, the records that wait and
the data of all writes that were carried out. -/
inductive WriteSide (token : Nat) :
    Option (List UInt8) → List WriteCommand → List WriteRecord → List (List UInt8) → Prop
  | idle (written : List (List UInt8)) : WriteSide token none [] [] written
  | waits (data : List UInt8) (written : List (List UInt8)) :
    WriteSide token (some data) [.write data { schedulee := token }] [] written
  | told (data : List UInt8) (record : WriteRecord) (written before : List (List UInt8))
      (split : written = before ++ [data]) : WriteSide token (some data) [] [record] written

namespace ReadSide

variable {token : Nat} {reading : Option (ReadLoop (List UInt8))} {finished : Bool}
  {q : ReadRecord (List UInt8)} {told : List (ReadRecord (List UInt8))}

theorem own {r : ReadLoop (List UInt8)} (side : ReadSide token (some r) finished told) :
    r.task.schedulee = token ∧ r.task.queue = 0 ∧ r.decoder = .bytes := by
  cases side with
  | runs r told owner queue decoder => exact ⟨owner, queue, decoder⟩

theorem turn {r : ReadLoop (List UInt8)} (side : ReadSide token (some r) finished told)
    {answer : Poll (List UInt8) String} (live : answer.cancels = false) :
    ReadSide token (r.turn false answer).next finished
      (told ++ (r.turn false answer).record.toList) := by
  cases side with
  | runs r told owner queue decoder data =>
    have passes := ReadLoop.turn_passes decoder answer live
    generalize r.turn false answer = turn at passes
    obtain ⟨next, record, received, call⟩ := turn
    cases passes with
    | waits => simpa using ReadSide.runs r told owner queue decoder data
    | closes q _ last => exact .ends _ told q rfl data last
    | passes next q _ more task decoder' =>
      refine .runs next _ (task ▸ owner) (task ▸ queue) (decoder'.trans decoder) fun p member => ?_
      rcases List.mem_append.mp member with member | member
      · exact data p member
      · obtain rfl := List.mem_singleton.mp member
        exact more

/-- Data were handled. -/
theorem data (side : ReadSide token reading finished (q :: told)) (more : q.isData = true) :
    ReadSide token reading finished told := by
  cases side with
  | runs r _ owner queue decoder data =>
    exact .runs r told owner queue decoder fun p member => data p (List.mem_cons_of_mem q member)
  | ends _ front last split data terminal =>
    cases front with
    | nil =>
      obtain ⟨rfl, rfl⟩ := List.cons.inj split
      exact nomatch more.symm.trans terminal
    | cons p front =>
      obtain ⟨rfl, rfl⟩ := List.cons.inj split
      exact .ends _ front last rfl (fun p member => data p (List.mem_cons_of_mem q member)) terminal

theorem unfinished (side : ReadSide token reading finished (q :: told)) : finished = false := by
  cases side with
  | runs | ends => rfl

/-- The end of the stream was handled. -/
theorem last (side : ReadSide token reading finished (q :: told)) (terminal : q.isData = false) :
    ReadSide token reading true told := by
  cases side with
  | runs r _ owner queue decoder data =>
    exact nomatch terminal.symm.trans (data q List.mem_cons_self)
  | ends _ front last split data =>
    cases front with
    | nil =>
      obtain ⟨rfl, rfl⟩ := List.cons.inj split
      exact .finished
    | cons p front =>
      obtain ⟨rfl, rfl⟩ := List.cons.inj split
      exact nomatch terminal.symm.trans (data q List.mem_cons_self)

end ReadSide

/-- The commands for the write that an outbox asks for. -/
def writesOf (token : Nat) (data : Option (List UInt8)) : List WriteCommand :=
  data.toList.map (.write · { schedulee := token })

namespace WriteSide

variable {token : Nat} {o : Outbox} {commands : List WriteCommand} {records : List WriteRecord}
  {written : List (List UInt8)}

/-- The first command in line is the write in flight, and the only one. -/
theorem head {inFlight : Option (List UInt8)} {command : WriteCommand} {rest : List WriteCommand}
    (side : WriteSide token inFlight (command :: rest) records written) :
    ∃ data, inFlight = some data ∧ command = .write data { schedulee := token } ∧ rest = [] ∧
      records = [] := by
  cases side with
  | waits data => exact ⟨data, rfl, rfl, rfl, rfl⟩

/-- What an outbox asks for is put in line while it is free. -/
theorem next (side : WriteSide token o.inFlight commands records written) :
    WriteSide token o.next.2.inFlight (commands ++ writesOf token o.next.1) records written := by
  rcases o.next_cases with ⟨same, _⟩ | ⟨data, rest, free, started⟩
  · rw [same]
    simpa [writesOf] using side
  · rw [free] at side
    rw [started]
    cases side with
    | idle => exact .waits data written

theorem push (side : WriteSide token o.inFlight commands records written) (payload : List UInt8) :
    WriteSide token (o.push payload).2.inFlight
      (commands ++ writesOf token (o.push payload).1) records written := by
  refine next ?_
  split
  · exact side
  · exact side

/-- The record of the write was handled, so the line is free. -/
theorem complete {record : WriteRecord}
    (side : WriteSide token o.inFlight commands (record :: records) written) (count : Nat) :
    WriteSide token (o.complete count).2.inFlight
      (commands ++ writesOf token (o.complete count).1) records written := by
  refine next ?_
  cases flight : o.inFlight with
  | none =>
    rw [flight] at side
    cases side
  | some data =>
    rw [flight] at side
    cases side
    exact .idle written

end WriteSide

/-- What holds of an open connection, given its socket, the records that wait for it and the data of
all writes that its socket has carried out. -/
structure EchoConnection.Served (c : EchoConnection) (token : Nat) (s : Socket (List UInt8))
    (reads : List (ReadRecord (List UInt8))) (writes : List WriteRecord)
    (written : List (List UInt8)) : Prop where
  held : s.held ≠ 0
  live : s.cancelled = false
  running : s.writer.running = true
  reading : ReadSide token s.reading c.finished reads
  writing : WriteSide token c.outbox.inFlight s.writer.commands writes written
  idle : c.outbox.inFlight = none → c.outbox.backlog = []
  undone : c.done = false

/-- A socket with more writes in line. -/
def Socket.putWrites {α : Type} (s : Socket α) (commands : List WriteCommand) : Socket α :=
  { s with writer := { s.writer with commands := s.writer.commands ++ commands } }

namespace EchoConnection

variable {c d : EchoConnection} {token : Nat} {s : Socket (List UInt8)}
  {reads : List (ReadRecord (List UInt8))} {writes : List WriteRecord}
  {written : List (List UInt8)}

theorem eq_of_settle (kept : c.settle.1 = some d) : c = d ∧ c.done = false ∧ c.settle.2 = [] := by
  unfold settle at kept ⊢
  split at kept
  · cases kept
  · rename_i undone
    cases kept
    exact ⟨rfl, by simpa using undone, if_neg undone ▸ rfl⟩

@[simp] theorem putWrites_nil (s : Socket (List UInt8)) : s.putWrites [] = s := by
  simp [Socket.putWrites]

/-- A record of the read was handled and the connection is still open: it may ask for a write. -/
theorem Served.read {q : ReadRecord (List UInt8)}
    (served : c.Served token s (q :: reads) writes written)
    (turned : (c.turn token (.read q)).1 = some d) :
    ∃ data, (c.turn token (.read q)).2 = Scheduler.writeCommand c token data ∧
      d.Served token (s.putWrites (writesOf token data)) reads writes written := by
  have unfinished := served.reading.unfinished
  cases error : q.error with
  | some text =>
    simp only [turn, error] at turned
    cases turned
  | none =>
    cases payload : q.payload with
    | some payload' =>
      simp only [turn, error, payload] at turned ⊢
      cases turned
      have more : q.isData = true := by simp [ReadRecord.isData, error, payload]
      exact ⟨_, rfl, served.held, served.live, served.running, served.reading.data more,
        served.writing.push payload', (Outbox.idle_next _), by simp [done, unfinished]⟩
    | none =>
      simp only [turn, error, payload] at turned ⊢
      obtain ⟨rfl, undone, silent⟩ := eq_of_settle turned
      have terminal : q.isData = false := by simp [ReadRecord.isData, error, payload]
      refine ⟨none, silent, ?_⟩
      rw [writesOf, Option.toList_none, List.map_nil, putWrites_nil]
      exact ⟨served.held, served.live, served.running, served.reading.last terminal,
        served.writing, served.idle, undone⟩

/-- The record of the write was handled and the connection is still open: it may ask for another. -/
theorem Served.write {r : WriteRecord}
    (served : c.Served token s reads (r :: writes) written)
    (turned : (c.turn token (.write r)).1 = some d) :
    ∃ data, (c.turn token (.write r)).2 = Scheduler.writeCommand c token data ∧
      d.Served token (s.putWrites (writesOf token data)) reads writes written := by
  by_cases error : r.error.isSome
  · simp only [turn, if_pos error] at turned
    cases turned
  · simp only [turn, if_neg error] at turned ⊢
    obtain ⟨rfl, undone, silent⟩ := eq_of_settle turned
    exact ⟨_, by rw [silent, List.append_nil], served.held, served.live, served.running,
      served.reading, served.writing.complete r.bytesWritten, Outbox.idle_next _, undone⟩

end EchoConnection

end SocketBridge
