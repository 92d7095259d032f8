import VoiceBus.Assembler.Notices
import VoiceBus.Transport.Receiver
import VoiceBus.Transport.Sender

/-! # A session: senders, one bus, one receiver and one assembler

The session holds a publishing end of the bus from which it opens the ends of its senders. The bus
is closed for the receiver once every publishing end is closed and the queue is empty.
-/

namespace VoiceBus

/-- Everything that takes part in a session. -/
structure Session where
  bus : Bus
  /-- Whether the session's own publishing end is open. -/
  holdsEnd : Bool := true
  /-- The receiver, until it is closed. -/
  receiver : Option Receiver := some {}
  /-- The open senders, each with its sink. -/
  senders : Table (Sender × Sink) := .empty
  assembler : Assembler
  chance : Chance

namespace Session

/-- What can be done in a session. -/
inductive Command
  /-- Opens a sender, in place of one of that name. -/
  | openSender (name : String) (config : Config) (sink : Sink) (sequence : UInt16)
    (clock : Nat → UInt16)
  | dropSender (name : String)
  | sendFull (name : String) (data : Bytes)
  | sendStream (name : String) (data : Bytes)
  /-- Publishes bytes through a sink of their own. -/
  | publish (topic : Topic) (data : Bytes) (sink : Sink)
  | receive
  /-- Receives, and gives a frame to the assembler under the serial number in its topic. -/
  | receiveAndPush (now : Nat)
  /-- Takes a message unchecked. The receiver then counts from zero. -/
  | receiveRaw
  | evict (now : Nat)
  /-- Closes the session's own publishing end. -/
  | closeBus
  | closeReceiver

/-- What a command answers. -/
inductive Reply
  | opened (topic : Topic)
  | refused (error : Error)
  | noSender
  /-- Whether there was something to close. -/
  | closed (was : Bool)
  | sentFull (result : SendResult UInt16)
  | sentStream (result : SendResult Nat)
  | published (outcome : Outcome)
  | received (reception : Reception) (event : Option AssemblyEvent)
  | receivedRaw (arrival : Arrival)
  | evicted (count : Nat)
  deriving DecidableEq, Repr

/-- A command done. -/
structure Turn where
  reply : Reply
  /-- What recorders took. -/
  recorded : List Message := []
  notices : List Notice := []
  /-- The session afterwards. -/
  session : Session

def new (capacity : Nat) (expiry : Duration) (luck : Nat → Luck) : Session where
  bus := { capacity, publishers := 1 }
  assembler := .new expiry
  chance := { luck }

/-- The outlet of a sink in this session. -/
def outlet (session : Session) (sink : Sink) : Outlet :=
  { sink, bus := session.bus, chance := session.chance }

/-- The session after something was published. -/
def after (session : Session) (outlet : Outlet) : Session :=
  { session with bus := outlet.bus, chance := outlet.chance }

/-- Whether the session can open a sink: an end of the bus is opened from the session's own. -/
def canOpen (session : Session) (sink : Sink) : Bool := session.holdsEnd || sink.ends == 0

/-- The ends of the bus that the sender of a name holds. -/
def endsOf (session : Session) (name : String) : Nat :=
  match session.senders.get? name with
  | some (_, sink) => sink.ends
  | none => 0

/-- Opens a sender whose configuration passes. Otherwise nothing changes. -/
def openSender (session : Session) (name : String) (config : Config) (sink : Sink)
    (sequence : UInt16) (clock : Nat → UInt16) : Turn :=
  match Sender.ofConfig config clock with
  | .error error => { reply := .refused error, session }
  | .ok sender =>
    if session.canOpen sink then
      { reply := .opened sender.topic
        session := { session with
          bus := (session.bus.attach sink.ends).detach (session.endsOf name)
          senders := session.senders.insert name (sender.withSequence sequence, sink) } }
    else { reply := .refused (.transport .closed), session }

def dropSender (session : Session) (name : String) : Turn where
  reply := .closed (session.senders.get? name).isSome
  session := { session with
    bus := session.bus.detach (session.endsOf name)
    senders := session.senders.erase name }

/-- Runs a call of the sender of a name. -/
def send {α : Type} (session : Session) (name : String) (reply : SendResult α → Reply)
    (call : Sender → Outlet → SendResult α × List Notice × Sender × Outlet) : Turn :=
  match session.senders.get? name with
  | none => { reply := .noSender, session }
  | some (sender, sink) =>
    let (result, notices, sender, outlet) := call sender (session.outlet sink)
    { reply := reply result
      recorded := outlet.recorded.toList
      notices
      session := { session.after outlet with
        senders := session.senders.insert name (sender, outlet.sink) } }

/-- Publishes bytes through a sink that is closed again. -/
def publish (session : Session) (topic : Topic) (data : Bytes) (sink : Sink) : Turn :=
  if session.canOpen sink then
    let (attempt, outlet) := (session.outlet sink).publish ⟨topic, data⟩
    { reply := .published attempt.outcome
      recorded := outlet.recorded.toList
      notices := attempt.notices
      session := session.after outlet }
  else { reply := .published (.failed .closed), session }

/-- Gives a received frame to the assembler. -/
def pushReceived (assembler : Assembler) (now : Nat) :
    Reception → Option AssemblyEvent × List Notice × Assembler
  | .frame received =>
    let device := received.topic.deviceSn
    let (event, next) := assembler.push device received.frame now
    (some event, assembler.pushNotices device received.frame event, next)
  | .failed _ | .waiting | .closed => (none, [], assembler)

/-- Receives. With a time, a frame is given to the assembler. -/
def receive (session : Session) (now : Option Nat) : Turn :=
  match session.receiver with
  | none => { reply := .received .closed none, session }
  | some receiver =>
    let (reception, notices, receiver, bus) := receiver.next session.bus
    let (event, more, assembler) :=
      match now with
      | some now => pushReceived session.assembler now reception
      | none => (none, [], session.assembler)
    { reply := .received reception event
      notices := notices ++ more
      session := { session with bus, receiver := some receiver, assembler } }

/-- Takes the next message as it is and starts a new receiver. -/
def receiveRaw (session : Session) : Turn :=
  match session.receiver with
  | none => { reply := .receivedRaw .closed, session }
  | some _ =>
    let (arrival, bus) := session.bus.receive
    { reply := .receivedRaw arrival
      session := { session with bus, receiver := some {} } }

def evict (session : Session) (now : Nat) : Turn :=
  let (count, assembler) := session.assembler.evict now
  { reply := .evicted count
    notices := session.assembler.evictNotices now
    session := { session with assembler } }

/-- Closes the session's own publishing end. Those of senders stay open. -/
def closeBus (session : Session) : Turn where
  reply := .closed session.holdsEnd
  session := { session with
    bus := session.bus.detach (if session.holdsEnd then 1 else 0)
    holdsEnd := false }

/-- Closes the receiver and with it the receiving end of the bus. -/
def closeReceiver (session : Session) : Turn where
  reply := .closed session.receiver.isSome
  session := { session with bus := session.bus.closeReceiver, receiver := none }

def step (session : Session) : Command → Turn
  | .openSender name config sink sequence clock =>
    session.openSender name config sink sequence clock
  | .dropSender name => session.dropSender name
  | .sendFull name data => session.send name .sentFull (Sender.sendFull Outlet.publish data)
  | .sendStream name data => session.send name .sentStream (Sender.sendStream Outlet.publish data)
  | .publish topic data sink => session.publish topic data sink
  | .receive => session.receive none
  | .receiveAndPush now => session.receive (some now)
  | .receiveRaw => session.receiveRaw
  | .evict now => session.evict now
  | .closeBus => session.closeBus
  | .closeReceiver => session.closeReceiver

end Session

end VoiceBus
