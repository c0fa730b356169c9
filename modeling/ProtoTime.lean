import ProtoTime.Debug.DapFramer
import ProtoTime.DecimalArithmetic
import ProtoTime.Emulator.ForeignRuns
import ProtoTime.GameBoy.ApuDelivery
import ProtoTime.GameBoy.ExtendedExecution
import ProtoTime.GameBoy.FramePixels
import ProtoTime.GameBoy.InputSide
import ProtoTime.GameBoy.NativeAgreement
import ProtoTime.GameBoy.RetirementAdditivity
import ProtoTime.GameBoy.RomReload
import ProtoTime.GameGear.CodeViews
import ProtoTime.GameGear.ExtendedExecution
import ProtoTime.GameGear.PsgCoherence
import ProtoTime.GameGear.SaveReload
import ProtoTime.GameGear.VdpSpriteAgreement
import ProtoTime.Host.AudioAlignment
import ProtoTime.Host.AudioEpochs
import ProtoTime.Host.IndexedConversion
import ProtoTime.Host.RealtimeVideoProtocol
import ProtoTime.Host.ThreadPoolLifecycle
import ProtoTime.Host.VideoFreshness
import ProtoTime.InstCycle.BlockCacheRuns
import ProtoTime.InstCycle.BlockScript
import ProtoTime.InstCycle.InvocationAccounting
import ProtoTime.Memory.SnapshotElements
import ProtoTime.Memory.SnapshotRoundTrip
import ProtoTime.Memory.StorageWrites
import ProtoTime.Modding.ModStacks
import ProtoTime.Netplay.WireCodec
import ProtoTime.Script.ScriptRuns
import ProtoTime.Space.Blocks
import ProtoTime.Space.ControlFlow
import ProtoTime.Space.ProjectMerge
import ProtoTime.Space.RunUntil
import ProtoTime.Visual.CapturedUses
