import CarrierAuth.Card.Script
import CarrierAuth.Device
import CarrierAuth.Json.Format
import CarrierAuth.Main
import CarrierAuth.Proofs.Card.ReplyGrammar
import CarrierAuth.Proofs.Octets.Hex
import CarrierAuth.Proofs.Octets.HexTexts
import CarrierAuth.Proofs.Octets.HexRange
import CarrierAuth.Proofs.Octets.Base64
import CarrierAuth.Proofs.Card.Batch
import CarrierAuth.Proofs.Identity.Permanent
import CarrierAuth.Proofs.Client.ClearText
import CarrierAuth.Proofs.Card.ReplyLength
import CarrierAuth.Proofs.Card.WhiteSpace
import CarrierAuth.Proofs.Client.Blame
import CarrierAuth.Proofs.Device.Isolation
import CarrierAuth.Proofs.Card.AnswerText
import CarrierAuth.Proofs.Card.Layouts
import CarrierAuth.Proofs.Card.Log
import CarrierAuth.Proofs.Card.BatchLog
import CarrierAuth.Proofs.Card.KeySecrecy
import CarrierAuth.Proofs.Card.ChallengeSecrecy
import CarrierAuth.Proofs.TwoRuns
import CarrierAuth.Proofs.Client.ImsiSecrecy
import CarrierAuth.Proofs.Identity.Encrypted
import CarrierAuth.Proofs.Identity.Realm
import CarrierAuth.Proofs.Identity.ImsiRealm
import CarrierAuth.Proofs.Identity.Anonymous
import CarrierAuth.Proofs.Client.SharedRealm
import CarrierAuth.Proofs.Client.Pseudonym
import CarrierAuth.Proofs.Yaml.Outline
import CarrierAuth.Proofs.Yaml.OutlineTokens
import CarrierAuth.Proofs.Yaml.OutlineLines
import CarrierAuth.Proofs.Yaml.OutlineNode
import CarrierAuth.Proofs.Yaml.Spelling
import CarrierAuth.Proofs.Settings.Outline
import CarrierAuth.Proofs.Settings.Text
import CarrierAuth.Proofs.Settings.LastWrite
import CarrierAuth.Proofs.Card.FirstFault
import CarrierAuth.Proofs.CommandLine.Output
import CarrierAuth.Proofs.CommandLine.CapturedReply
import CarrierAuth.Proofs.CommandLine.Failure
