import SigningConsole.Main
import SigningConsole.Proofs.CallReport
import SigningConsole.Proofs.Descent
import SigningConsole.Proofs.LoginStore
import SigningConsole.Proofs.SingleUse
import SigningConsole.Proofs.LeftSession
import SigningConsole.Proofs.TableRun
import SigningConsole.Proofs.TakenCookies
import SigningConsole.Proofs.EncodedText
import SigningConsole.Proofs.Numerals
import SigningConsole.Proofs.CivilDates
import SigningConsole.Proofs.PrintedJson
import SigningConsole.Proofs.WrittenInstants
import SigningConsole.Proofs.RecordCodec
import SigningConsole.Proofs.KeptFile
import SigningConsole.Proofs.SessionFile
import SigningConsole.Proofs.StoreRefinement
import SigningConsole.Proofs.EndedSession
import SigningConsole.Proofs.RefusedEvents
import SigningConsole.Proofs.FileStore
import SigningConsole.Proofs.TableScopes
import SigningConsole.Proofs.TablePages
import SigningConsole.Proofs.StrippedRedirect
import SigningConsole.Proofs.LoginOutcome
import SigningConsole.Proofs.SessionAge
import SigningConsole.Proofs.Rejection
import SigningConsole.Proofs.SessionLeft
import SigningConsole.Proofs.CodeExchange
import SigningConsole.Proofs.GoneSession
import SigningConsole.Proofs.HeededRejection
import SigningConsole.Proofs.FinalRejection
import SigningConsole.Proofs.TokenHistory
import SigningConsole.Proofs.ShownSecret
import SigningConsole.Proofs.ConfiguredAge
import SigningConsole.Proofs.WindowLength
import SigningConsole.Proofs.RelativePaths
import SigningConsole.Proofs.LoginPage
import SigningConsole.Proofs.StatisticsHistory
import SigningConsole.Proofs.JarHeader
import SigningConsole.Proofs.SettledRecords
import SigningConsole.Proofs.RacingCalls
import SigningConsole.Proofs.AppliedListing
import SigningConsole.Proofs.ExpiredCookie
import SigningConsole.Proofs.RedirectCodes
import SigningConsole.Proofs.ImportedCookie
import SigningConsole.Proofs.InstantSpellings
import SigningConsole.Proofs.ReportLimits
import SigningConsole.Proofs.NewKeys
import SigningConsole.Proofs.LoginFrame
import SigningConsole.Proofs.RouteGrammar
import SigningConsole.Proofs.AlignedColumns
import SigningConsole.Proofs.CountedRecords
import SigningConsole.Proofs.GroupedNumbers
import SigningConsole.Proofs.WrittenSpans
