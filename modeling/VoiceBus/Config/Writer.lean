import VoiceBus.Config.Basic
import VoiceBus.Json.Token
import VoiceBus.Numeric.Shortest

/-! # Writing a configuration document

One object without blanks, every field present and in order.
-/

namespace VoiceBus.Config

/-- Seconds stand without an exponent from a hundred-thousandth up to below ten to the
sixteenth. -/
def secondsStyle : Numeric.DecimalStyle := ⟨-5, 15⟩

def writeMember (key : String) (value : List Char) : List Char :=
  ['"'] ++ key.toList ++ ['"', ':'] ++ value

def writeObject (members : List (List Char)) : List Char :=
  ['\x7b'] ++ [','].intercalate members ++ ['\x7d']

def writeNat (n : Nat) : List Char := Nat.toDigits 10 n

def writeAudio (audio : AudioParams) : List Char :=
  writeObject [
    writeMember "sample_rate" (writeNat audio.sampleRate.toNat),
    writeMember "channels" (writeNat audio.channels.toNat),
    writeMember "format" (Json.writeText audio.format.name)]

def writeChars (config : Config) : List Char :=
  writeObject [
    writeMember "audio" (writeAudio config.audio),
    writeMember "topic" (Json.writeText config.topic),
    writeMember "max_fragment_size" (writeNat config.maxFragment),
    writeMember "fragment_expiry" (Numeric.shortestText secondsStyle config.expiry.toBinary64)]

def write (config : Config) : String := String.ofList config.writeChars

end VoiceBus.Config
