import NfcAdapter.SmResponse
import NfcAdapter.Lockstep
import NfcAdapter.SmChannel
import NfcAdapter.Mrz
import NfcAdapter.FillField
import NfcAdapter.Bac
import NfcAdapter.CardAccess
import NfcAdapter.Pace
import NfcAdapter.PassportRead
import NfcAdapter.PassportSteps
import NfcAdapter.PassportAuth
import NfcAdapter.PaceReflection
import NfcAdapter.PassportResponse
import NfcAdapter.PassportLoop
import NfcAdapter.SmTotal
import NfcAdapter.PassportFile
import NfcAdapter.PassportPhoto
import NfcAdapter.AsyncCalls
import NfcAdapter.CardEmulation
import NfcAdapter.CardEmulationSteps
import NfcAdapter.CardEmulationMode
import NfcAdapter.CardEmulationTable
import NfcAdapter.CardEmulationRemoval
import NfcAdapter.CardEmulationRegistration
import NfcAdapter.CardEmulationRestart
import NfcAdapter.Json
import NfcAdapter.Ndef
import NfcAdapter.NdefMessage
import NfcAdapter.NdefBuild
import NfcAdapter.TagRead
import NfcAdapter.TagReadInv
import NfcAdapter.TagReadShown
import NfcAdapter.TagWrite
import NfcAdapter.TagWriteServed
import NfcAdapter.TagWriteTarget
import NfcAdapter.PassportPhotoLeg
import NfcAdapter.PassportReads
import NfcAdapter.PassportReadsInv
import NfcAdapter.PassportLocks
import NfcAdapter.PassportCleanup
import NfcAdapter.PaceCompleteness
import NfcAdapter.Adapter
import NfcAdapter.AdapterAttach
import NfcAdapter.AdapterStatus
import NfcAdapter.CardEmulationService
import NfcAdapter.CardEmulationServed
import NfcAdapter.SmCommandForm
import NfcAdapter.CardAccessBounds
import NfcAdapter.NdefWidth
import NfcAdapter.Utf8
import NfcAdapter.NdefStrings
import NfcAdapter.NdefBluetooth
import NfcAdapter.Delimited
import NfcAdapter.NdefVcard
import NfcAdapter.Tlv16
import NfcAdapter.NdefWifi
import NfcAdapter.MacAddress
import NfcAdapter.Dg2Photo
import NfcAdapter.BacHandshake
import NfcAdapter.MrzKey
import NfcAdapter.MrzFormat
import NfcAdapter.NdefUri
import NfcAdapter.Utf16
import NfcAdapter.NdefUtf16
import NfcAdapter.ShortTlv
import NfcAdapter.PaceObjects
import NfcAdapter.CardAccessComplete
import NfcAdapter.PassportCardAccess
import NfcAdapter.PaceSelection
import NfcAdapter.Chunks
import NfcAdapter.PhotoBmp
import NfcAdapter.TagClone
import NfcAdapter.Trials
import NfcAdapter.MifareSweep
import NfcAdapter.TagSweep
import NfcAdapter.Progress
import NfcAdapter.EmrtdSession
import NfcAdapter.Emrtd
import NfcAdapter.EmrtdRead
import NfcAdapter.EmrtdBac
import NfcAdapter.EmrtdPace
import NfcAdapter.Base64
import NfcAdapter.LunaService
import NfcAdapter.NfcService
import NfcAdapter.NfcServiceAccounts
import NfcAdapter.NfcServiceServed
import NfcAdapter.Mirror
import NfcAdapter.NfcServicePosts
import NfcAdapter.TagRecords
import NfcAdapter.PhotoConvert
import NfcAdapter.PassportDocument
import NfcAdapter.PassportReply
import NfcAdapter.NfcServicePassports
import NfcAdapter.NfcServiceWrites
import NfcAdapter.NfcServiceReaders
import NfcAdapter.ClassicCard
