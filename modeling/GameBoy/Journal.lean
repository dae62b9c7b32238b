import GameBoy.Cartridge.Header
import GameBoy.Cpu.Registers
import GameBoy.Fault
import GameBoy.Interrupt
import GameBoy.Lcd.Mode
import GameBoy.Text.Quote

/-!
# Notable events

Operations report what a person following the machine would want to read. An
event is data; its severity and its text are functions of it. Events never
influence the machine.
-/

namespace GameBoy

/-- How much an event matters, most severe first. -/
inductive Severity where
  | error
  | warning
  | info
  | debug
  | trace
  deriving DecidableEq, Repr

namespace Severity

/-- Rank of a severity; a smaller rank is more severe. -/
def rank : Severity → Nat
  | .error => 0
  | .warning => 1
  | .info => 2
  | .debug => 3
  | .trace => 4

/-- The severity's name in front of a message. -/
def name : Severity → String
  | .error => "ERROR"
  | .warning => "WARN"
  | .info => "INFO"
  | .debug => "DEBUG"
  | .trace => "TRACE"

end Severity

/-- Something that happened while the machine worked. -/
inductive Event where
  | illegalOpcode (fault : Fault) (registers : Cpu.Registers)
  | stopped (address : Word)
  | resumed (address : Word)
  | dispatched (interrupt : Interrupt) (source target : Word)
  | lcdOff (line : Nat)
  | lcdOn
  | statEdge (line : Nat) (mode : Lcd.Mode)
  | verticalBlank (requested : Byte)
  | bootRomLoaded
  | bootRomUnmapped
  | checksumMismatch (stored computed : Byte)
  | unsupportedMapper (cartridgeType : Byte)
  | cartridgeLoaded (header : Cartridge.Header) (romSize : Nat)
  | running (header : Cartridge.Header)
  deriving DecidableEq, Repr

namespace Event

/-- How much the event matters. -/
def severity : Event → Severity
  | illegalOpcode _ _ => .error
  | checksumMismatch _ _ | unsupportedMapper _ => .warning
  | bootRomLoaded | bootRomUnmapped | cartridgeLoaded _ _ | running _ => .info
  | stopped _ | resumed _ | lcdOff _ | lcdOn => .debug
  | dispatched _ _ _ | statEdge _ _ | verticalBlank _ => .trace

/-- The event in words. -/
def message : Event → String
  | illegalOpcode fault registers =>
    let af := (registers.pair .af).hex
    let bc := (registers.pair .bc).hex
    let de := (registers.pair .de).hex
    let hl := (registers.pair .hl).hex
    let sp := (registers.pair .sp).hex
    s!"CPU: {fault.message} (AF={af} BC={bc} DE={de} HL={hl} SP={sp})"
  | stopped address => s!"CPU: STOP at PC={address.hex}"
  | resumed address => s!"CPU: leaving STOP at PC={address.hex}"
  | dispatched interrupt source target =>
    s!"CPU: dispatch {interrupt.name} from PC={source.hex} to {target.hex}"
  | lcdOff line => s!"PPU: LCD off at LY={line}"
  | lcdOn => "PPU: LCD on"
  | statEdge line mode => s!"PPU: STAT edge at LY={line} mode={mode.name}"
  | verticalBlank requested => s!"PPU: V-blank, IF={requested.hex}"
  | bootRomLoaded => "Boot ROM loaded"
  | bootRomUnmapped => "Boot ROM unmapped"
  | checksumMismatch stored computed =>
    s!"Header checksum mismatch: stored {stored.hex}, computed {computed.hex}"
  | unsupportedMapper cartridgeType =>
    s!"Unsupported cartridge type {cartridgeType.hex}; running with fixed ROM banks"
  | cartridgeLoaded header romSize =>
    let rom := romSize / 1024
    let ram := header.ramSize / 1024
    let circuit := s!"type {header.cartridgeType.hex} ({header.mapper.name})"
    s!"Loaded cartridge {Text.quote header.title}: {circuit}, {rom} KiB ROM, {ram} KiB RAM"
  | running header => s!"Running {Text.quote header.title} ({header.mapper.name})"

/-- The event on one line, behind its severity. -/
def line (event : Event) : String := s!"{event.severity.name} {event.message}"

/-- Whether the event is at least as severe as a threshold. -/
def reaches (event : Event) (threshold : Severity) : Bool :=
  event.severity.rank ≤ threshold.rank

end Event

end GameBoy
