/-! # Audio formats and stream parameters -/

namespace VoiceBus

/-- How the payload of a frame is coded. -/
inductive AudioFormat
  | pcm
  | aac
  | opus
  | mp3
  | g711a
  | g711u
  | wav
  deriving DecidableEq, Repr

namespace AudioFormat

/-- Every format, in the order of its code. -/
def all : List AudioFormat := [pcm, aac, opus, mp3, g711a, g711u, wav]

/-- The number that stands for the format in a header. -/
def code : AudioFormat → UInt8
  | pcm => 1
  | aac => 2
  | opus => 3
  | mp3 => 4
  | g711a => 5
  | g711u => 6
  | wav => 7

def ofCode? (code : UInt8) : Option AudioFormat := all.find? (·.code = code)

def name : AudioFormat → String
  | pcm => "pcm"
  | aac => "aac"
  | opus => "opus"
  | mp3 => "mp3"
  | g711a => "g711a"
  | g711u => "g711u"
  | wav => "wav"

def ofName? (name : String) : Option AudioFormat := all.find? (·.name = name)

/-- Stored payloads carry the format's name as their file extension. -/
def extension (format : AudioFormat) : String := format.name

/-- The name as descriptions show it. -/
def label : AudioFormat → String
  | pcm => "Pcm"
  | aac => "Aac"
  | opus => "Opus"
  | mp3 => "Mp3"
  | g711a => "G711A"
  | g711u => "G711U"
  | wav => "Wav"

/-- The name of a code, also when no format is registered under it. -/
def nameOfCode (code : UInt8) : String := ((ofCode? code).map name).getD "unknown"

theorem mem_all (format : AudioFormat) : format ∈ all := by cases format <;> decide

@[simp] theorem ofCode?_code (format : AudioFormat) : ofCode? format.code = some format := by
  cases format <;> decide

theorem code_of_ofCode? {code : UInt8} {format : AudioFormat} (h : ofCode? code = some format) :
    format.code = code := by
  simpa using List.find?_some h

@[simp] theorem ofName?_name (format : AudioFormat) : ofName? format.name = some format := by
  cases format <;> decide

end AudioFormat

/-- What every frame of one stream says about its sound. -/
structure AudioParams where
  /-- Samples per second. -/
  sampleRate : UInt16 := 16000
  /-- Number of channels; a header keeps its low two bits. -/
  channels : UInt8 := 1
  format : AudioFormat := .opus
  deriving DecidableEq, Repr

def AudioParams.describe (audio : AudioParams) : String :=
  "AudioConfig \x7b sample_rate: " ++ toString audio.sampleRate ++
    ", channels: " ++ toString audio.channels ++ ", format: " ++ audio.format.label ++ " \x7d"

end VoiceBus
