import CfgPatch.Cfg.Format
import CfgPatch.Main
import CfgPatch.Proofs.Extraction
import CfgPatch.Proofs.Frame
import CfgPatch.Proofs.Order
import CfgPatch.Proofs.ReadBack
import CfgPatch.Proofs.History
import CfgPatch.Proofs.Containment
import CfgPatch.Proofs.Interruption
import CfgPatch.Proofs.Noninterference
import CfgPatch.Proofs.FixedPoint
import CfgPatch.Proofs.Commutation
import CfgPatch.Proofs.Merging
import CfgPatch.Proofs.Layout
import CfgPatch.Proofs.Forecast
import CfgPatch.Proofs.Loops
import CfgPatch.Proofs.Picking
import CfgPatch.Proofs.Values
import CfgPatch.Proofs.Children
import CfgPatch.Proofs.Splitting
import CfgPatch.Proofs.Verbatim
import CfgPatch.Proofs.Addressing
import CfgPatch.Proofs.Matching
import CfgPatch.Proofs.Pushes
import CfgPatch.Proofs.Rescan
import CfgPatch.Proofs.Stripping
import CfgPatch.Proofs.HeaderGrammar
import CfgPatch.Proofs.Keys
import CfgPatch.Proofs.Conjunction
import CfgPatch.Proofs.Respelling
import CfgPatch.Proofs.Lockstep
import CfgPatch.Proofs.Atoms
import CfgPatch.Proofs.Tiling
import CfgPatch.Proofs.Calculation
import CfgPatch.Proofs.Partners
