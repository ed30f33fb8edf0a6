import DecodeBench.Main
import DecodeBench.Proofs.Batch.Listing
import DecodeBench.Proofs.Batch.Slices
import DecodeBench.Proofs.Cache.LastWrite
import DecodeBench.Proofs.Cache.NextFit
import DecodeBench.Proofs.Cache.Sharing
import DecodeBench.Proofs.Chunking.ChunkSize
import DecodeBench.Proofs.CommandLine.NumberLists
import DecodeBench.Proofs.CommandLine.Totals
import DecodeBench.Proofs.Engine.AttentionMask
import DecodeBench.Proofs.Engine.FailedCalls
import DecodeBench.Proofs.Model.ConfigTexts
import DecodeBench.Proofs.Report.FullOutput
import DecodeBench.Proofs.Sweep.Policies
import DecodeBench.Proofs.Sweep.Rejections
import DecodeBench.Proofs.Sweep.Repetition
import DecodeBench.Proofs.Sweep.WordSize
import DecodeBench.Proofs.Trial.CausalHistory
import DecodeBench.Proofs.Trial.Script
