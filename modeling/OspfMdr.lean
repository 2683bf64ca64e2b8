import OspfMdr.Proofs.LlsTlv
import OspfMdr.Proofs.DbdescRoles
import OspfMdr.Proofs.AdjacencyLsa
import OspfMdr.Proofs.LsaCoverage
import OspfMdr.Proofs.RouterLsa
import OspfMdr.Proofs.RouterLsaLinks
import OspfMdr.Proofs.RouteOrder
import OspfMdr.Proofs.LsdbRun
import OspfMdr.Proofs.HelloPacket
import OspfMdr.Proofs.Flood
import OspfMdr.Proofs.PrefixTableRun
import OspfMdr.Proofs.BestPath
import OspfMdr.Proofs.OpenOption
import OspfMdr.Proofs.UpdateReceive
import OspfMdr.Proofs.MdrParentScan
import OspfMdr.Proofs.MdrHops
import OspfMdr.Proofs.ZebraRedistribute
import OspfMdr.Proofs.BabelPacket
import OspfMdr.Proofs.IsisFragmentRun
import OspfMdr.Proofs.HelloSequence
import OspfMdr.Proofs.LsaExamin
import OspfMdr.Proofs.Checksum
import OspfMdr.Proofs.BackupWait
import OspfMdr.Proofs.HelloDelay
import OspfMdr.Proofs.AbrRange
import OspfMdr.Proofs.AddressFamily
import OspfMdr.Proofs.ZebraNexthop
import OspfMdr.Proofs.ZebraUpdate
import OspfMdr.Proofs.LsaSend
import OspfMdr.Proofs.AspathNormal
import OspfMdr.Proofs.IsisParse
import OspfMdr.Proofs.IsisReceipt
