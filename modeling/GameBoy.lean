import GameBoy.CommandLine.FileTree
import GameBoy.CommandLine.Session
import GameBoy.Console
import GameBoy.Main
import GameBoy.Memory.Flat
import GameBoy.Proofs.Console.Operation
import GameBoy.Proofs.Cpu.Simulation
import GameBoy.Proofs.Lcd.Schedule
import GameBoy.Proofs.Lcd.Timeline
import GameBoy.Proofs.Lcd.Picture
import GameBoy.Proofs.Console.Inserted
import GameBoy.Proofs.Console.PowerCycle
import GameBoy.Proofs.Checked.Number
import GameBoy.Proofs.Checked.Timer
import GameBoy.Proofs.Checked.Line
import GameBoy.Proofs.Checked.Lcd
import GameBoy.Proofs.Checked.Cartridge
import GameBoy.Proofs.Console.Sound
import GameBoy.Proofs.Checked.Board
import GameBoy.Proofs.Checked.Arithmetic
import GameBoy.Proofs.Checked.PowerOn
import GameBoy.Proofs.Checked.Console
import GameBoy.Proofs.Cartridge.Banking
import GameBoy.Proofs.Lcd.StatLine
import GameBoy.Proofs.Console.Loading
import GameBoy.Proofs.Cpu.Footprint
import GameBoy.Proofs.Timer.Alignment
import GameBoy.Proofs.Console.Run
import GameBoy.Proofs.Console.TimerInterrupts
import GameBoy.Proofs.Cartridge.BankedRam
import GameBoy.Proofs.Cpu.Activity
import GameBoy.Proofs.Cpu.Permission
import GameBoy.Proofs.Console.Access
import GameBoy.Proofs.Console.Screen
import GameBoy.Proofs.Console.InterruptRequests
import GameBoy.Proofs.Lcd.Frames
import GameBoy.Proofs.Console.Waiting
import GameBoy.Proofs.Console.Completion
import GameBoy.Proofs.Console.Rendering
import GameBoy.Proofs.Console.Alignment
import GameBoy.Proofs.Cpu.Faults
import GameBoy.Proofs.Console.Faults
import GameBoy.Proofs.Console.Lockstep
import GameBoy.Proofs.Lcd.FreshFrames
import GameBoy.Proofs.Board.Interleaving
import GameBoy.Proofs.Timer.Request
import GameBoy.Proofs.Console.Waking
import GameBoy.Proofs.Cpu.Priority
import GameBoy.Proofs.Cpu.Draining
import GameBoy.Proofs.Console.Stopped
import GameBoy.Proofs.Console.Overlay
import GameBoy.Proofs.Cpu.FlagRegister
import GameBoy.Proofs.Console.Polling
import GameBoy.Proofs.CommandLine.FileTree
import GameBoy.Proofs.Picture.Graymap
import GameBoy.Proofs.CommandLine.Session
import GameBoy.Proofs.Lcd.Composition
import GameBoy.Proofs.Timer.FreeRunning
import GameBoy.Proofs.Cartridge.TrailingBank
import GameBoy.Proofs.Cartridge.Checksum
import GameBoy.Proofs.Cpu.Effects
import GameBoy.Proofs.Cpu.LongArithmetic
import GameBoy.Proofs.Board.Ownership
import GameBoy.Proofs.Board.SpriteTransfer
import GameBoy.Proofs.Cpu.Reads
import GameBoy.Proofs.Cpu.RepeatedFetch
import GameBoy.Proofs.Cpu.Stack
import GameBoy.Proofs.Console.Buttons
import GameBoy.Proofs.Console.WriteBack
import GameBoy.Proofs.CommandLine.Options
import GameBoy.Proofs.Memory.Noise
