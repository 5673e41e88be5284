import Traveller.Runs
import Traveller.Drafts
import Traveller.Patterns
import Traveller.PathTree
import Traveller.NodeTables
import Traveller.Users
import Traveller.ChatRooms
import Traveller.ChatRecords
import Traveller.ChatWrites
import Traveller.ChatScreen
import Traveller.ChatLock
import Traveller.ChatTexts
import Traveller.ChatEdit
import Traveller.ChatPreviews
import Traveller.ChatBlock
import Traveller.ChatSends
import Traveller.OpenRoom
import Traveller.ChatMirror
import Traveller.ChatList
import Traveller.ChatStored
import Traveller.ChatImages
import Traveller.ChatUploads
import Traveller.ChatSystem
import Traveller.Conversations
import Traveller.ChatRefines
import Traveller.ChatOwn
import Traveller.ChatPairs
import Traveller.ChatDecline
import Traveller.Presence
import Traveller.ForgotPin
import Traveller.PinField
import Traveller.PinScreen
import Traveller.EmailFormat
import Traveller.SessionStore
import Traveller.SessionApi
import Traveller.SessionLogout
import Traveller.SessionReplies
import Traveller.SessionLaunch
import Traveller.SessionPassword
import Traveller.SessionKept
import Traveller.ChatSession
import Traveller.ChatTraps
import Traveller.ScreenGuards
import Traveller.Loading
import Traveller.ListScreens
import Traveller.ListReplies
import Traveller.ReviewDialog
import Traveller.LocalTime
import Traveller.TripForm
import Traveller.ArrivalTime
import Traveller.SearchPicks
import Traveller.PlaceData
import Traveller.Words
import Traveller.TripItems
import Traveller.DecimalText
import Traveller.MyTripDetail
import Traveller.BottomRow
import Traveller.FitBox
import Traveller.ImageSizes
import Traveller.Calendar
import Traveller.Ages
import Traveller.ItemChecks
import Traveller.Indicators
import Traveller.LoadIndicators
import Traveller.ProgressHUD
import Traveller.Placeholders
import Traveller.Birthdays
import Traveller.ProfilePage
import Traveller.SessionRating
