/-
  File:      Rk3588Chassis/DaemonArgs.lean
  Subject:   The command line of the daemon (`tools/chassis_daemon.c`).

  `strtof` and `strtol` are parameters: functions from a text to the value read and the offset
  of the first character they did not read (`*end - text`). `parseFloatArg` and `parseIntArg`
  test that offset only, so that every value the two functions can return is accepted.
-/
import Rk3588Chassis.Control

set_option linter.unusedSectionVars false

namespace Rk3588Chassis

open CFloat

/-- A C string, without its terminating NUL. -/
abbrev CString := List UInt8

section Parse

variable {F : Type}

/-- The test `end == text || *end != '\0'` on what a conversion read. -/
def wholeText {α : Type} (text : CString) (parsed : α × Nat) : Option α :=
  if parsed.2 = 0 ∨ parsed.2 < text.length then none else some parsed.1

/-- `parse_float_arg`. -/
def parseFloatArg (strtof : CString → F × Nat) (text : CString) : Option F :=
  wholeText text (strtof text)

/-- `parse_int_arg`; the cast to `int` wraps. -/
def parseIntArg (strtol : CString → Int64 × Nat) (text : CString) : Option Int32 :=
  (wholeText text (strtol text)).map Int64.toInt32

/-- An argument that may be missing: `argc >= n && !parse(argv[n - 1], &value)`. -/
def optionalArg {α : Type} (parse : CString → Option α) (default : α) : Option CString → Option α
  | none => some default
  | some text => parse text

variable [CFloat F]

/-- `DEFAULT_UDP_PORT`. -/
def defaultUdpPort : Int32 := 20001

/-- What `main` takes from its arguments, apart from the texts it hands to `socketcan_open`,
    `open_udp_socket` and `fopen`. -/
structure DaemonOptions (F : Type) where
  config : ChassisConfig F
  udpPort : Int32
  csvLog : Bool

/-- The default configuration with the two limits of the command line. -/
def daemonConfig (maxTranslateRpm maxRotateRpm : F) : ChassisConfig F :=
  { chassisDefaultConfig with
    maxTranslateRpm := maxTranslateRpm
    maxRotateRpm := maxRotateRpm }

/-- The argument checks of `main`: `none` where it prints and returns 2. -/
def parseOptions (strtof : CString → F × Nat) (strtol : CString → Int64 × Nat)
    (argv : List CString) : Option (DaemonOptions F) :=
  if argv.length < 2 ∨ 7 < argv.length then none
  else
    match optionalArg (parseIntArg strtol) defaultUdpPort argv[3]?,
      optionalArg (parseFloatArg strtof) (chassisDefaultConfig : ChassisConfig F).maxTranslateRpm
        argv[4]?,
      optionalArg (parseFloatArg strtof) (chassisDefaultConfig : ChassisConfig F).maxRotateRpm
        argv[5]? with
    | some udpPort, some maxTranslateRpm, some maxRotateRpm =>
      if udpPort < 1 ∨ 65535 < udpPort then none
      else some ⟨daemonConfig maxTranslateRpm maxRotateRpm, udpPort, argv[6]?.isSome⟩
    | _, _, _ => none

/-- Only the two limits come from the command line. -/
theorem parseOptions_config {strtof : CString → F × Nat} {strtol : CString → Int64 × Nat}
    {argv : List CString} {options : DaemonOptions F}
    (h : parseOptions strtof strtol argv = some options) :
    ∃ maxTranslateRpm maxRotateRpm, options.config = daemonConfig maxTranslateRpm maxRotateRpm := by
  unfold parseOptions at h
  split at h
  · cases h
  · split at h
    · split at h
      · cases h
      · cases h
        exact ⟨_, _, rfl⟩
    · cases h

end Parse

end Rk3588Chassis
