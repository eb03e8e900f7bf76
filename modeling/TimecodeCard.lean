import TimecodeCard.Main
import TimecodeCard.Proofs.TimeCode.Numbering
import TimecodeCard.Proofs.TimeCode.Stepping
import TimecodeCard.Proofs.Card.ModuleSteps
import TimecodeCard.Proofs.Card.Tracking
import TimecodeCard.Proofs.Ltc.Landing
import TimecodeCard.Proofs.Tco.Encoding
import TimecodeCard.Proofs.Card.Coherence
import TimecodeCard.Proofs.Ltc.Consumption
import TimecodeCard.Proofs.Card.ArmedRequest
import TimecodeCard.Proofs.Ltc.Durations
import TimecodeCard.Proofs.Card.Completion
import TimecodeCard.Proofs.Tco.SignalCodec
import TimecodeCard.Proofs.Card.RegisterCodec
import TimecodeCard.Proofs.Simulation.Registers
import TimecodeCard.Proofs.Simulation.InStep
import TimecodeCard.Proofs.Simulation.SettingUp
import TimecodeCard.Proofs.Simulation.Boundaries
import TimecodeCard.Proofs.Simulation.Input
import TimecodeCard.Proofs.Simulation.Arrivals
import TimecodeCard.Proofs.Simulation.NominalSpeed
import TimecodeCard.Proofs.Ltc.History
import TimecodeCard.Proofs.Card.Monotonicity
import TimecodeCard.Proofs.Tco.StatusCodec
import TimecodeCard.Proofs.Tco.ConfigCodec
import TimecodeCard.Proofs.Card.Effects
import TimecodeCard.Proofs.Card.Settings
import TimecodeCard.Proofs.Tco.Accesses
import TimecodeCard.Proofs.Card.ControlRegister
import TimecodeCard.Proofs.Card.Lengths
import TimecodeCard.Proofs.Card.FollowedRate
import TimecodeCard.Proofs.Card.Runs
import TimecodeCard.Proofs.Card.Silence
import TimecodeCard.Proofs.Card.Suspend
import TimecodeCard.Proofs.Card.Noninterference
import TimecodeCard.Proofs.Card.Notification
import TimecodeCard.Proofs.TimeCode.Enumeration
import TimecodeCard.Proofs.Ltc.Handover
import TimecodeCard.Proofs.Tco.Snapshot
import TimecodeCard.Proofs.Text.Numeral
import TimecodeCard.Proofs.TimeCode.Reading
import TimecodeCard.Proofs.Midi.Encoding
import TimecodeCard.Proofs.Ltc.PullFactor
import TimecodeCard.Proofs.Ltc.WallClock
import TimecodeCard.Proofs.Simulation.PointerPath
import TimecodeCard.Proofs.TimeCode.WideLayout
import TimecodeCard.Proofs.TimeCode.SkipLoop
import TimecodeCard.Proofs.Simulation.Punctuality
