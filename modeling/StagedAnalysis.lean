import StagedAnalysis.Main
import StagedAnalysis.Token.Grammar
import StagedAnalysis.Workbench.View
import StagedAnalysis.Proofs.Session.Gate
import StagedAnalysis.Proofs.Session.NoCode
import StagedAnalysis.Proofs.Document.WholeText
import StagedAnalysis.Proofs.Document.Composition
import StagedAnalysis.Proofs.Token.Printing
import StagedAnalysis.Proofs.Structure.CleanLines
import StagedAnalysis.Proofs.Names.Blocks
import StagedAnalysis.Proofs.Layout.Independence
import StagedAnalysis.Proofs.CommandLine.ExitCode
import StagedAnalysis.Proofs.Workbench.OwnText
import StagedAnalysis.Proofs.Workbench.OnePhase
import StagedAnalysis.Proofs.Session.Console
import StagedAnalysis.Proofs.Workbench.CommandLine
import StagedAnalysis.Proofs.Structure.Balance
import StagedAnalysis.Proofs.Names.Faults
import StagedAnalysis.Proofs.CommandLine.LoadFailure
import StagedAnalysis.Proofs.Token.Blame
import StagedAnalysis.Proofs.Structure.Semicolons
import StagedAnalysis.Proofs.Structure.Repair
import StagedAnalysis.Proofs.Session.LineEnds
import StagedAnalysis.Proofs.Workbench.StageClicks
import StagedAnalysis.Proofs.Workbench.Clearing
import StagedAnalysis.Proofs.Workbench.Marks
import StagedAnalysis.Proofs.Names.TableHistory
import StagedAnalysis.Proofs.Structure.Thinning
import StagedAnalysis.Proofs.CommandLine.Reads
import StagedAnalysis.Proofs.Names.Relabelling
import StagedAnalysis.Proofs.Names.Renaming
