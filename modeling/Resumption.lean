import Resumption.Frame
import Resumption.Host
import Resumption.Host.SettingsFile
import Resumption.Packet
import Resumption.Proofs.SessionCodec
import Resumption.Proofs.WindowRefinement
import Resumption.Proofs.OfficeCalls
import Resumption.Proofs.OfficeReplay
import Resumption.Proofs.OfficeAuthenticity
import Resumption.Proofs.DirectoryPaths
import Resumption.Proofs.ScriptCourses
import Resumption.Proofs.DataDirectory
import Resumption.Proofs.WatermarkText
import Resumption.Proofs.WatermarkDurability
import Resumption.Proofs.HostReservation
import Resumption.Proofs.HostLifetimes
import Resumption.Proofs.OfficeCompleteness
import Resumption.Proofs.EnvelopeCodec
import Resumption.Proofs.PacketCodec
import Resumption.Proofs.HostRejection
import Resumption.Proofs.HostOverlap
import Resumption.Proofs.FrameReading
import Resumption.Proofs.FrameReassembly
import Resumption.Proofs.PacketStreams
import Resumption.Proofs.OfficeRejection
import Resumption.Proofs.TicketTransport
import Resumption.Proofs.CipherInverse
import Resumption.Proofs.OfficeAcceptance
import Resumption.Proofs.OfficeSealing
import Resumption.Proofs.HostContinuity
import Resumption.Proofs.VolumeTree
import Resumption.Proofs.PathPieces
import Resumption.Proofs.PathViews
import Resumption.Proofs.WatermarkAtomicity
import Resumption.Proofs.KeyPersistence
import Resumption.Proofs.WindowRange
import Resumption.Proofs.OpenDirectory
import Resumption.Proofs.HostOpening
import Resumption.Proofs.HostStarts
import Resumption.Proofs.WindowOrder
import Resumption.Proofs.WindowWidth
import Resumption.Proofs.FrameExactness
import Resumption.Proofs.PacketFraming
import Resumption.Proofs.ReaderSafety
import Resumption.Proofs.LogFilterReadings
import Resumption.Proofs.SettingsDocuments
