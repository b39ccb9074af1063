import HeimdallDaq.Daq.Config
import HeimdallDaq.Daq.Header
import HeimdallDaq.Daq.Ring
import HeimdallDaq.Daq.State
import HeimdallDaq.Daq.Step
import HeimdallDaq.Daq.Fifo
import HeimdallDaq.Proofs.Run
import HeimdallDaq.Proofs.Frame
import HeimdallDaq.Proofs.Window
import HeimdallDaq.Proofs.Slots
import HeimdallDaq.Proofs.Alignment
import HeimdallDaq.Proofs.Overdrive
import HeimdallDaq.Proofs.TunerControl
import HeimdallDaq.Proofs.Requests
import HeimdallDaq.Proofs.Stream
import HeimdallDaq.Proofs.Restart
import HeimdallDaq.Proofs.Bounds
import HeimdallDaq.Proofs.Shutdown
import HeimdallDaq.Proofs.Fifo
import HeimdallDaq.Proofs.Readers
import HeimdallDaq.Proofs.MissedCancel
import HeimdallDaq.Daq.Ini
import HeimdallDaq.Proofs.Ini
