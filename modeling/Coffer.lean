import Coffer.Bytes.Hex
import Coffer.Dictionary.Format
import Coffer.Cipher.Keyring
import Coffer.Password
import Coffer.Json.Text
import Coffer.Json.Token
import Coffer.Config.Basic
import Coffer.Config.Environment
import Coffer.Config.File
import Coffer.Archive.Basic
import Coffer.Change
import Coffer.Store.Basic
import Coffer.Store.Session
import Coffer.Value.Codec
import Coffer.Value.Layout
import Coffer.Store.Typed
import Coffer.Table
import Coffer.CommandLine.Arguments
import Coffer.CommandLine.Help
import Coffer.CommandLine.Report
import Coffer.CommandLine.Run
import Coffer.Main
import Coffer.Buffer.Lemmas
import Coffer.Dictionary.Lemmas
import Coffer.Disk.Lemmas
import Coffer.Proofs.Steps
import Coffer.Proofs.Utf16
import Coffer.Proofs.Filing
import Coffer.Proofs.Form
import Coffer.Proofs.Agreement
import Coffer.Proofs.Aes
import Coffer.Proofs.Base64
import Coffer.Proofs.Sealing
import Coffer.Proofs.Folders
import Coffer.Proofs.Saving
import Coffer.Proofs.Serving
import Coffer.Proofs.Reach
import Coffer.Proofs.Reopening
import Coffer.Proofs.Calls
import Coffer.Proofs.Protection
import Coffer.Proofs.Operations
import Coffer.Proofs.Snapshots
import Coffer.Proofs.Announcing
import Coffer.Proofs.Values
import Coffer.Proofs.Likeness
import Coffer.Proofs.Mirroring
import Coffer.Proofs.Opening
import Coffer.Proofs.Durability
import Coffer.Proofs.Letters
import Coffer.Proofs.Slots
import Coffer.Proofs.Ciphertexts
import Coffer.Proofs.NormalForms
import Coffer.Proofs.Starts
import Coffer.Proofs.Tables
import Coffer.Proofs.Listing
import Coffer.Proofs.Caseless
import Coffer.Proofs.Runs
import Coffer.Proofs.Following
import Coffer.Proofs.Estimates
import Coffer.Proofs.Touching
import Coffer.Proofs.Upserting
import Coffer.Proofs.Layouts
import Coffer.Proofs.Updating
import Coffer.Proofs.Reserves
import Coffer.Proofs.Removing
import Coffer.Proofs.Extension
import Coffer.Proofs.Verdicts
import Coffer.Proofs.Effects
import Coffer.Proofs.Closing
import Coffer.Proofs.Repeating
import Coffer.Proofs.Shelf
import Coffer.Proofs.CommandRuns
import Coffer.Proofs.Persisting
import Coffer.Proofs.Versions
import Coffer.Proofs.Requests
import Coffer.Proofs.Tallies
import Coffer.Proofs.Restoring
import Coffer.Proofs.Cancelling
import Coffer.Proofs.Conditions
import Coffer.Proofs.Freezing
import Coffer.Proofs.Draining
import Coffer.Proofs.Deeds
import Coffer.Proofs.Commuting
import Coffer.Proofs.Addresses
import Coffer.Proofs.Passwords
import Coffer.Proofs.Rendering
import Coffer.Proofs.Providing
import Coffer.Proofs.Classes
import Coffer.Proofs.Sheets
import Coffer.Proofs.Escapes
import Coffer.Proofs.Grammar
import Coffer.Proofs.Members
import Coffer.Proofs.Sharing
