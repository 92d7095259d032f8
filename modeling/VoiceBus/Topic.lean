import VoiceBus.Text.Quoted

/-! # Bus topics

A topic is a path of five levels: vendor, device type, serial number, command and direction. None
is empty, the serial number holds ASCII letters, digits and underscores only, and the direction is
one of two words.
-/

namespace VoiceBus

/-- Which way messages on a topic flow. -/
inductive Direction
  /-- From the device to the server. -/
  | server
  /-- From the server to the device. -/
  | client
  deriving DecidableEq, Repr

def Direction.name : Direction → String
  | server => "server"
  | client => "client"

def Direction.opposite : Direction → Direction
  | server => client
  | client => server

/-- A topic by its levels. -/
structure Topic where
  vendor : String
  deviceType : String
  /-- Serial number of the device. -/
  deviceSn : String
  /-- Command family, such as `voice`. -/
  command : String
  direction : Direction
  deriving DecidableEq, Repr

/-! ## Errors -/

/-- A level that can be found empty. -/
inductive TopicLevel
  | vendor
  | deviceType
  | command
  | direction
  deriving DecidableEq, Repr

def TopicLevel.name : TopicLevel → String
  | vendor => "vendor"
  | deviceType => "device_type"
  | command => "command"
  | direction => "direction"

/-- Why a text is no topic. -/
inductive TopicError
  | empty
  | tooFewLevels (count : Nat)
  | tooManyLevels (count : Nat)
  | emptyLevel (level : TopicLevel)
  | invalidDeviceSn (text : String)
  | invalidDirection (text : String)
  deriving DecidableEq, Repr

def TopicError.message : TopicError → String
  | empty => "topic is empty"
  | tooFewLevels count => s!"topic has {count} levels, need 5"
  | tooManyLevels count => s!"topic has {count} levels, expected exactly 5"
  | emptyLevel level => s!"topic level {level.name} is empty"
  | invalidDeviceSn text => "invalid device serial number: " ++ Text.quote text
  | invalidDirection text =>
    "invalid direction: " ++ Text.quote text ++ " (expected server or client)"

/-! ## Writing -/

namespace Topic

def levelCount : Nat := 5

/-- The path that names the topic. -/
def path (topic : Topic) : String :=
  topic.vendor ++ "/" ++ topic.deviceType ++ "/" ++ topic.deviceSn ++ "/" ++ topic.command ++ "/" ++
    topic.direction.name

/-- The topic of the same device and command that flows the other way. -/
def reply (topic : Topic) : Topic := { topic with direction := topic.direction.opposite }

/-! ## Reading -/

/-- One step of `splitLevels`: a slash opens a level, another character joins the first one. -/
def splitStep (c : Char) (levels : List (List Char)) : List (List Char) :=
  if c = '/' then [] :: levels
  else match levels with
    | [] => [[c]]
    | level :: rest => (c :: level) :: rest

/-- The levels of a path. There is always at least one. -/
def splitLevels (path : List Char) : List (List Char) := path.foldr splitStep [[]]

/-- Whether a text can be a serial number: ASCII letters, digits and underscores, at least one. -/
def isDeviceSn (text : String) : Bool :=
  !text.isEmpty && text.toList.all fun c => c.isAlphanum || c == '_'

/-- Checks the levels other than the direction. The first one that fails is the error. -/
def validate (topic : Topic) : Except TopicError Unit :=
  if topic.vendor.isEmpty then .error (.emptyLevel .vendor)
  else if topic.deviceType.isEmpty then .error (.emptyLevel .deviceType)
  else if topic.command.isEmpty then .error (.emptyLevel .command)
  else if isDeviceSn topic.deviceSn then .ok ()
  else .error (.invalidDeviceSn topic.deviceSn)

end Topic

def Direction.parse (text : String) : Except TopicError Direction :=
  if text = "server" then .ok .server
  else if text = "client" then .ok .client
  else if text.isEmpty then .error (.emptyLevel .direction)
  else .error (.invalidDirection text)

namespace Topic

def checked (topic : Topic) : Except TopicError Topic := topic.validate.map fun _ => topic

def parse (text : String) : Except TopicError Topic :=
  if text.isEmpty then .error .empty
  else match (splitLevels text.toList).map String.ofList with
    | [vendor, deviceType, deviceSn, command, direction] =>
      match Direction.parse direction with
      | .error error => .error error
      | .ok direction => checked { vendor, deviceType, deviceSn, command, direction }
    | levels =>
      .error (if levels.length < levelCount then .tooFewLevels levels.length
        else .tooManyLevels levels.length)

/-- The topic on which a device sends its voice to the server. Slashes inside the levels are not
looked for. -/
def voiceUplink (vendor deviceType deviceSn : String) : Except TopicError Topic :=
  checked { vendor, deviceType, deviceSn, command := "voice", direction := .server }

@[simp] theorem reply_reply (topic : Topic) : topic.reply.reply = topic := by
  cases topic with
  | mk _ _ _ _ direction => cases direction <;> rfl

@[simp] theorem splitLevels_nil : splitLevels [] = [[]] := rfl

@[simp] theorem splitLevels_cons (c : Char) (path : List Char) :
    splitLevels (c :: path) = splitStep c (splitLevels path) := rfl

theorem splitLevels_ne_nil (path : List Char) : splitLevels path ≠ [] := by
  cases path with
  | nil => simp
  | cons c rest =>
    rw [splitLevels_cons]
    unfold splitStep
    split
    · simp
    · split <;> simp

end Topic

end VoiceBus
