import CallPump.Bench.Errand
import CallPump.Bench.Halves
import CallPump.Bench.Roster
import CallPump.Bench.Session
import CallPump.Yaml.Reading
import CallPump.Proofs.Call.Moves
import CallPump.Proofs.Pump.Frame
import CallPump.Proofs.Pump.Scene
import CallPump.Proofs.Pump.Life
import CallPump.Proofs.Pump.Balance
import CallPump.Proofs.Call.Talk
import CallPump.Proofs.Call.Solo
import CallPump.Proofs.Call.Line
import CallPump.Proofs.Call.Halves
import CallPump.Proofs.Pump.Held
import CallPump.Proofs.Pump.Shutdown
import CallPump.Proofs.Pump.Stay
import CallPump.Proofs.Pump.Apart
import CallPump.Proofs.Pump.SingleUse
import CallPump.Proofs.Pump.Staged
import CallPump.Proofs.Pump.Resolve
import CallPump.Proofs.Pump.Stranded
import CallPump.Proofs.Pump.Threads
import CallPump.Proofs.Pump.Returns
import CallPump.Proofs.Client.Prepare
import CallPump.Proofs.Client.Receive
import CallPump.Proofs.Wire.Messages
import CallPump.Proofs.Wire.Whole
import CallPump.Proofs.Chunk.Join
import CallPump.Proofs.Chunk
import CallPump.Proofs.Chain
import CallPump.Proofs.Queue.InOrder
import CallPump.Proofs.Chunk.Frames
import CallPump.Proofs.Chunk.Damaged
import CallPump.Proofs.Client.Chunked
import CallPump.Proofs.Client.Defaults
import CallPump.Proofs.Client.Configured
import CallPump.Proofs.Call.Way
import CallPump.Proofs.Call.Trail
import CallPump.Proofs.Pump.LetGo
import CallPump.Proofs.Pump.Lasting
import CallPump.Proofs.Call.Clocked
import CallPump.Proofs.Pump.Deadline
import CallPump.Proofs.Call.Upload
import CallPump.Proofs.Pump.Upload
import CallPump.Proofs.Params
import CallPump.Proofs.Verdict
import CallPump.Proofs.Handoff
import CallPump.Proofs.Call.Armed
import CallPump.Proofs.Pump.Armed
