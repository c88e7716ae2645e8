import ShardCheck.Main
import ShardCheck.Proofs.CleanRun
import ShardCheck.Proofs.Glob.Limits
import ShardCheck.Proofs.Malformed
import ShardCheck.Proofs.Path
import ShardCheck.Proofs.WalkOrder
import ShardCheck.Proofs.Agreement
import ShardCheck.Proofs.WalkFault
import ShardCheck.Proofs.Loading
import ShardCheck.Proofs.Written
import ShardCheck.Proofs.NewRule
import ShardCheck.Proofs.RecordPath
import ShardCheck.Proofs.LogLevel
import ShardCheck.Proofs.NewFile
import ShardCheck.Proofs.FileName
import ShardCheck.Proofs.ConfigKey
import ShardCheck.Proofs.WalkEnds
import ShardCheck.Proofs.References
import ShardCheck.Proofs.Glob.Matching
import ShardCheck.Proofs.Glob.Plain
import ShardCheck.Proofs.Glob.Segments
import ShardCheck.Proofs.Yaml.Edit
import ShardCheck.Proofs.Yaml.Harmless
import ShardCheck.Proofs.Edited
